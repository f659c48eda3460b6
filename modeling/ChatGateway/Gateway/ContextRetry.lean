import ChatGateway.Gateway.ContextBudget
import Mathlib.Algebra.Order.BigOperators.Group.List
import Mathlib.Algebra.Order.Group.Nat

set_option autoImplicit false

/-!
# Trimming to the target, and the retry

What is trimmed stays within its target and its entries' sizes unless a truncation lengthens one,
and a retry says whether it changed the payload.
-/

namespace ChatGateway

section Weight

variable (codec : JsonCodec)

def fieldTokens (value : Option Json) : Nat :=
  (value.map (estimateTokensFromValue codec)).getD 0

def blockTokens (block : Json) : Nat :=
  if isResultBlock block then fieldTokens codec (block.get "content") else 0

def weight (toolResult : Bool) (entry : Json) : Nat :=
  match entry.asObject with
  | none => estimateTokensFromValue codec entry
  | some object =>
    fieldTokens codec (Json.field object "output") +
      match if toolResult then nestedResults object else none with
      | some blocks => (blocks.map (blockTokens codec)).sum
      | none => fieldTokens codec (Json.field object "content")

structure Reduces (change : Json → Option Json) : Prop where
  less : ∀ value after, change value = some after →
    estimateTokensFromValue codec after < estimateTokensFromValue codec value
  text : ∀ value after, change value = some after → ∃ text, after = .string text

variable {codec} {change : Json → Option Json} {fields : List (String × Json)} {after : Json}
  {toolResult : Bool}

theorem weight_content (reduces : Reduces codec change)
    (plain : (if toolResult then nestedResults fields else none) = none)
    (changed : changeField fields "content" change = some after) :
    weight codec toolResult after < weight codec toolResult (.object fields) := by
  obtain ⟨value, found, rfl⟩ := Option.map_eq_some_iff.1 changed
  obtain ⟨old, present, replaced⟩ := Option.bind_eq_some_iff.1 found
  obtain ⟨text, rfl⟩ := reduces.text old value replaced
  have less := reduces.less old _ replaced
  have still : (if toolResult then
      nestedResults (Json.setField fields "content" (.string text)) else none) = none := by
    cases toolResult with
    | false => rfl
    | true => simp [nestedResults, Json.field_setField, Json.asArray]
  simp only [weight, Json.asObject, still, plain, Json.field_setField, fieldTokens, present,
    Option.map_some, Option.getD_some, if_true]
  simpa using less

theorem weight_output (reduces : Reduces codec change)
    (changed : changeField fields "output" change = some after) :
    weight codec toolResult after < weight codec toolResult (.object fields) := by
  obtain ⟨value, found, rfl⟩ := Option.map_eq_some_iff.1 changed
  obtain ⟨old, present, replaced⟩ := Option.bind_eq_some_iff.1 found
  have less := reduces.less old _ replaced
  have same : nestedResults (Json.setField fields "output" value) = nestedResults fields := by
    simp [nestedResults, Json.field_setField]
  simp only [weight, Json.asObject, same, Json.field_setField, fieldTokens, present,
    Option.map_some, Option.getD_some, if_true]
  simpa using less

theorem blockTokens_change (reduces : Reduces codec change) (block : Json) :
    blockTokens codec ((changeResultBlock change block).getD block) ≤ blockTokens codec block ∧
      ((changeResultBlock change block).isSome →
        blockTokens codec ((changeResultBlock change block).getD block) <
          blockTokens codec block) := by
  cases changed : changeResultBlock change block with
  | none => exact ⟨Nat.le_refl _, by simp⟩
  | some after =>
    have less : blockTokens codec after < blockTokens codec block := by
      have kept : isResultBlock after = isResultBlock block := by
        have same := (changeResultBlock_kept change block).result
        rwa [changed] at same
      unfold changeResultBlock at changed
      split_ifs at changed with result
      obtain ⟨object, same, changed⟩ := Option.bind_eq_some_iff.1 changed
      have known : block = .object object := by
        cases block <;> simp_all [Json.asObject]
      obtain ⟨value, found, rfl⟩ := Option.map_eq_some_iff.1 changed
      obtain ⟨old, present, replaced⟩ := Option.bind_eq_some_iff.1 found
      have fewer := reduces.less old value replaced
      rw [blockTokens, blockTokens, kept, result, known]
      simpa [fieldTokens, Json.field_setField, present] using fewer
    exact ⟨Nat.le_of_lt less, fun _ => less⟩

theorem weight_nested (reduces : Reduces codec change) {blocks : List Json}
    (nested : nestedResults fields = some blocks)
    (changed : changeResultBlocks change fields blocks = some after) :
    weight codec true after < weight codec true (.object fields) := by
  obtain ⟨read, results⟩ := Option.filter_eq_some_iff.1 nested
  unfold changeResultBlocks at changed
  split_ifs at changed with touched
  cases changed
  -- The changed blocks are tool results where the old ones were.
  have still : nestedResults (Json.setField fields "content"
      (.array (blocks.map fun block => (changeResultBlock change block).getD block))) =
      some (blocks.map fun block => (changeResultBlock change block).getD block) := by
    rw [nestedResults, Json.field_setField, if_pos rfl, Option.bind_some, Json.asArray,
      Option.filter_eq_some_iff]
    refine ⟨rfl, ?_⟩
    obtain ⟨block, known, result⟩ := List.any_eq_true.1 results
    refine List.any_eq_true.2 ⟨_, List.mem_map_of_mem known, ?_⟩
    rw [(changeResultBlock_kept change block).result, result]
  have fewer : ((blocks.map fun block => (changeResultBlock change block).getD block).map
      (blockTokens codec)).sum < (blocks.map (blockTokens codec)).sum := by
    rw [List.map_map]
    obtain ⟨block, known, changes⟩ := List.any_eq_true.1 touched
    exact List.sum_lt_sum _ _ (fun block _ => (blockTokens_change reduces block).1)
      ⟨block, known, (blockTokens_change reduces block).2 changes⟩
  simp only [weight, Json.asObject, if_true, nested, still, Json.field_setField]
  simpa using fewer

theorem weight_truncate {maxChars : Nat} {label : String} {entry : Json}
    (changed : truncateEntryContent codec maxChars label toolResult entry = some after) :
    weight codec toolResult after < weight codec toolResult entry := by
  have reduces : Reduces codec (truncateValueField codec maxChars label) := by
    constructor
    · intro value after replaced
      unfold truncateValueField at replaced
      simp only [Option.ite_none_left_eq_some] at replaced
      obtain ⟨rfl, less⟩ := replaceIfSmaller_taken replaced.2
      exact less
    · intro value after replaced
      unfold truncateValueField at replaced
      simp only [Option.ite_none_left_eq_some] at replaced
      exact ⟨_, (replaceIfSmaller_taken replaced.2).1⟩
  cases entry with
  | object fields =>
    unfold truncateEntryContent at changed
    simp only [Json.asObject] at changed
    split at changed
    next blocks nested =>
      cases toolResult with
      | false => cases nested
      | true => exact weight_nested reduces nested changed
    next plain =>
      rcases Option.or_eq_some_iff.1 changed with content | ⟨-, output⟩
      · exact weight_content reduces plain content
      · exact weight_output reduces output
  | _ =>
    simp only [truncateEntryContent, Json.asObject] at changed
    obtain ⟨text, rfl⟩ := reduces.text _ after changed
    exact reduces.less _ _ changed

theorem weight_compact {entry : Json} (changed : compactEntry codec toolResult entry = some after) :
    weight codec toolResult after < weight codec toolResult entry := by
  have reduces (summary : String) :
      Reduces codec fun value => replaceIfSmaller codec value (.string summary) :=
    ⟨fun value after replaced => by
      obtain ⟨rfl, less⟩ := replaceIfSmaller_taken replaced
      exact less, fun value after replaced => ⟨_, (replaceIfSmaller_taken replaced).1⟩⟩
  cases entry with
  | object fields =>
    unfold compactEntry at changed
    simp only [Json.asObject] at changed
    split at changed
    · exact weight_output (reduces _) changed
    · split at changed
      next blocks nested =>
        cases toolResult with
        | false => cases nested
        | true => exact weight_nested (reduces _) nested changed
      next plain =>
        split at changed
        · exact weight_content (reduces _) plain changed
        · exact weight_output (reduces _) changed
  | _ =>
    obtain ⟨rfl, less⟩ := replaceIfSmaller_taken changed
    exact less

end Weight

section Unchanged

variable {codec : JsonCodec}

def weightAt (codec : JsonCodec) (protection : ContextProtection) (index : Nat) (entry : Json) :
    Nat :=
  weight codec (index ∈ protection.compactableToolResults) entry

def totalWeight (codec : JsonCodec) (protection : ContextProtection) (entries : List Json) : Nat :=
  (entries.mapIdx (weightAt codec protection)).sum

variable {protection : ContextProtection} {index : Nat} {entry after : Json}

theorem truncateCandidate_lighter
    (changed : truncateCandidate codec protection index entry = some after) :
    weightAt codec protection index after < weightAt codec protection index entry := by
  unfold truncateCandidate at changed
  by_cases compactable : index ∈ protection.compactableToolResults
  · simp only [compactable, decide_true, if_true] at changed
    simpa [weightAt, compactable] using weight_truncate changed
  · simp only [compactable, decide_false, Bool.false_eq_true, if_false] at changed
    simpa [weightAt, compactable] using weight_truncate changed

theorem compactCandidate_lighter
    (changed : compactCandidate codec protection index entry = some after) :
    weightAt codec protection index after < weightAt codec protection index entry :=
  weight_compact changed

theorem sum_mapIdx_set (entries : List Json) (measure : Nat → Json → Nat) {index : Nat}
    {entry changed : Json} (here : entries[index]? = some entry)
    (less : measure index changed < measure index entry) :
    ((entries.set index changed).mapIdx measure).sum < (entries.mapIdx measure).sum := by
  induction entries generalizing index measure with
  | nil => simp at here
  | cons head rest ih =>
    cases index with
    | zero =>
      cases here
      simpa using less
    | succ index =>
      have later := ih (fun place => measure (place + 1)) here less
      simpa [List.mapIdx_cons] using later

-- A pass leaves the entries and its counters as they were, or it counts and the weight is less.
theorem trimPass_unchanged {change : Nat → Json → Option Json}
    (lighter : ∀ index entry after, change index entry = some after →
      weightAt codec protection index after < weightAt codec protection index entry)
    {count : Nat → ContextTrimStats → ContextTrimStats} {Counted : ContextTrimStats → Prop}
    (counts : ∀ index stats, Counted (count index stats)) (targetTokens : Nat)
    (candidates : List Nat) (state : List Json × ContextTrimStats) :
    trimPass codec change count targetTokens candidates state = state ∨
      totalWeight codec protection
          (trimPass codec change count targetTokens candidates state).1 <
        totalWeight codec protection state.1 ∧
        Counted (trimPass codec change count targetTokens candidates state).2 := by
  induction candidates generalizing state with
  | nil => exact .inl rfl
  | cons index rest ih =>
    obtain ⟨entries, stats⟩ := state
    rw [trimPass]
    split
    · exact .inl rfl
    · split
      next changed found =>
        obtain ⟨entry, here, changes⟩ := Option.bind_eq_some_iff.1 found
        have less : totalWeight codec protection (entries.set index changed) <
            totalWeight codec protection entries :=
          sum_mapIdx_set entries _ here (lighter index entry changed changes)
        rcases ih (entries.set index changed, count index stats) with same | ⟨fewer, counted⟩
        · rw [same]
          exact .inr ⟨less, counts index stats⟩
        · exact .inr ⟨fewer.trans less, counted⟩
      next declined => exact ih (entries, stats)

def Counted (stats : ContextTrimStats) : Prop :=
  0 < stats.compactedEntries ∨ 0 < stats.truncatedBlocks

theorem saturatingIncrement_pos (count : Nat) : 0 < saturatingIncrement count :=
  Nat.lt_min.2 ⟨Nat.succ_pos count, by decide⟩

theorem countResult_counted {protection : ContextProtection} {index : Nat}
    {stats : ContextTrimStats} (counted : Counted stats) :
    Counted (countResult protection index stats) := by
  unfold countResult
  dsimp only
  split
  · exact counted
  · exact counted

theorem countTruncated_counted (protection : ContextProtection) (index : Nat)
    (stats : ContextTrimStats) : Counted (countTruncated protection index stats) :=
  countResult_counted (.inr (saturatingIncrement_pos _))

theorem countCompacted_counted (protection : ContextProtection) (index : Nat)
    (stats : ContextTrimStats) : Counted (countCompacted protection index stats) :=
  countResult_counted (.inl (saturatingIncrement_pos _))

-- The entries are as they were, with nothing counted, or they differ and something is.
theorem trimEntriesToBudget_unchanged (codec : JsonCodec) (entries : List Json)
    (targetTokens : Nat) (protection : ContextProtection) :
    trimEntriesToBudget codec entries targetTokens protection = (entries, {}) ∨
      (trimEntriesToBudget codec entries targetTokens protection).1 ≠ entries ∧
        Counted (trimEntriesToBudget codec entries targetTokens protection).2 := by
  have truncates : ∀ index entry after,
      truncateCandidate codec protection index entry = some after →
      weightAt codec protection index after < weightAt codec protection index entry :=
    fun _ _ _ => truncateCandidate_lighter
  have compacts : ∀ index entry after,
      compactCandidate codec protection index entry = some after →
      weightAt codec protection index after < weightAt codec protection index entry :=
    fun _ _ _ => compactCandidate_lighter
  have first := trimPass_unchanged truncates
    (countTruncated_counted protection) targetTokens
    (trimCandidates entries protection) (entries, {})
  rw [trimEntriesToBudget_eq]
  generalize trimPass codec (truncateCandidate codec protection) (countTruncated protection)
    targetTokens (trimCandidates entries protection) (entries, {}) = truncated at first ⊢
  have second := trimPass_unchanged compacts
    (countCompacted_counted protection) targetTokens
    (trimCandidates entries protection) truncated
  have differs {now : List Json}
      (less : totalWeight codec protection now < totalWeight codec protection entries) :
      now ≠ entries := by
    rintro rfl
    exact Nat.lt_irrefl _ less
  rcases second with same | ⟨less, counted⟩
  · rw [same]
    rcases first with still | ⟨fewer, counted⟩
    · exact .inl still
    · exact .inr ⟨differs fewer, counted⟩
  · rcases first with still | ⟨fewer, -⟩
    · rw [still] at less
      exact .inr ⟨differs (still ▸ less), counted⟩
    · exact .inr ⟨differs (less.trans fewer), counted⟩

end Unchanged

section Payload

variable {object : List (String × Json)} {key other : String} {value : Json}

theorem removeField_cons (name : String) (old : Json) (rest : List (String × Json)) (key : String) :
    Json.removeField ((name, old) :: rest) key =
      if name = key then Json.removeField rest key
      else (name, old) :: Json.removeField rest key := by
  by_cases here : name = key <;> simp [Json.removeField, here]

theorem removeField_setField_self (object : List (String × Json)) (key : String) (value : Json) :
    Json.removeField (Json.setField object key value) key = Json.removeField object key := by
  induction object with
  | nil => simp [Json.setField, Json.removeField]
  | cons head rest ih =>
    obtain ⟨name, old⟩ := head
    by_cases here : name = key <;> simp [Json.setField, removeField_cons, here, ih]

theorem removeField_setField (apart : key ≠ other) :
    Json.removeField (Json.setField object key value) other =
      Json.setField (Json.removeField object other) key value := by
  induction object with
  | nil => simp [Json.setField, Json.removeField, apart]
  | cons head rest ih =>
    obtain ⟨name, old⟩ := head
    by_cases here : name = key
    · simp [Json.setField, removeField_cons, here, apart]
    · by_cases gone : name = other
      · simp [Json.setField, removeField_cons, gone, Ne.symm apart, ih]
      · simp [Json.setField, removeField_cons, here, gone, ih]

theorem setField_self (present : Json.field object key = some value) :
    Json.setField object key value = object := by
  induction object with
  | nil => simp at present
  | cons head rest ih =>
    obtain ⟨name, old⟩ := head
    by_cases here : name = key
    · simp_all [Json.setField]
    · simp_all [Json.setField]

def baseFields (object : List (String × Json)) : List (String × Json) :=
  Json.removeField (Json.removeField object "messages") "input"

theorem baseFields_context (context : key = "messages" ∨ key = "input") :
    baseFields (Json.setField object key value) = baseFields object := by
  rcases context with rfl | rfl
  · rw [baseFields, removeField_setField_self, baseFields]
  · rw [baseFields, removeField_setField (by decide), removeField_setField_self, baseFields]

theorem baseFields_other (messages : key ≠ "messages") (input : key ≠ "input") :
    baseFields (Json.setField object key value) = Json.setField (baseFields object) key value := by
  rw [baseFields, removeField_setField messages, removeField_setField input, baseFields]

theorem field_baseFields (messages : key ≠ "messages") (input : key ≠ "input") :
    Json.field (baseFields object) key = Json.field object key := by
  rw [baseFields, Json.field_removeField, Json.field_removeField, if_neg (Ne.symm input),
    if_neg (Ne.symm messages)]

theorem estimate_baseline (codec : JsonCodec) (object : List (String × Json)) :
    estimatePayloadBaselineTokens codec (.object object) =
      estimateTokensFromValue codec (.object (baseFields object)) :=
  rfl

theorem estimateContextEntryTokens_eq (codec : JsonCodec) (payload : Json) :
    estimateContextEntryTokens codec payload =
      estimateEntriesTokens codec ((contextEntries payload).getD []) := by
  unfold estimateContextEntryTokens contextEntries
  cases (payload.get "messages").bind Json.asArray with
  | some messages => rfl
  | none => cases (payload.get "input").bind Json.asArray <;> rfl

theorem trimWithProtection_cases (codec : JsonCodec) (payload : Json) (targetTokens : Nat)
    (protection : ContextProtection) :
    (contextEntries payload = none ∧
      trimContextEntriesWithProtection codec payload targetTokens protection = (payload, {})) ∨
    ∃ object key entries, payload = .object object ∧ (key = "messages" ∨ key = "input") ∧
      Json.field object key = some (.array entries) ∧ contextEntries payload = some entries ∧
      (∀ newEntries, contextEntries (.object (Json.setField object key (.array newEntries))) =
        some newEntries) ∧
      trimContextEntriesWithProtection codec payload targetTokens protection =
        (.object (Json.setField object key
            (.array (trimEntriesToBudget codec entries targetTokens protection).1)),
          (trimEntriesToBudget codec entries targetTokens protection).2) := by
  cases payload with
  | object object =>
    have array {key : String} {entries : List Json}
        (read : (Json.field object key).bind Json.asArray = some entries) :
        Json.field object key = some (.array entries) := by
      obtain ⟨value, found, same⟩ := Option.bind_eq_some_iff.1 read
      cases value <;> simp_all [Json.asArray]
    cases messages : (Json.field object "messages").bind Json.asArray with
    | some entries =>
      refine .inr ⟨object, "messages", entries, rfl, .inl rfl, array messages, ?_, ?_, ?_⟩
      · simp [contextEntries, messages]
      · simp [contextEntries, Json.field_setField, Json.asArray]
      · simp [trimContextEntriesWithProtection, Json.asObject, messages]
    | none =>
      cases input : (Json.field object "input").bind Json.asArray with
      | some entries =>
        refine .inr ⟨object, "input", entries, rfl, .inr rfl, array input, ?_, ?_, ?_⟩
        · simp [contextEntries, messages, input]
        · simp [contextEntries, Json.field_setField, Json.asArray, messages]
        · simp [trimContextEntriesWithProtection, Json.asObject, messages, input]
      | none =>
        refine .inl ⟨?_, ?_⟩
        · simp [contextEntries, messages, input]
        · simp [trimContextEntriesWithProtection, Json.asObject, messages, input]
  | _ => exact .inl ⟨rfl, rfl⟩

theorem halveFirstCap_spec {keys : List String} {cap : String × Nat × Nat} {payload : Json}
    (halved : halveFirstCap object keys = some (cap, payload)) :
    payload = .object (Json.setField object cap.1 (.ofNat cap.2.2)) ∧ cap.1 ∈ keys ∧
      Json.field object cap.1 = some (.ofNat cap.2.1) ∧ 1 < cap.2.1 ∧
      cap.2.2 = max (cap.2.1 / 2) 1 := by
  induction keys with
  | nil => cases halved
  | cons key rest ih =>
    have later (skipped : halveFirstCap object rest = some (cap, payload)) :=
      (ih skipped).imp_right (And.imp_left (List.mem_cons_of_mem key))
    rw [halveFirstCap] at halved
    cases read : (Json.field object key).bind Json.asU64 with
    | none => exact later (by simpa only [read] using halved)
    | some current =>
      simp only [read] at halved
      split at halved
      · exact later halved
      · next large =>
        cases halved
        obtain ⟨value, found, same⟩ := Option.bind_eq_some_iff.1 read
        have number : value = .ofNat current := by
          cases value with
          | number number => cases number <;> simp_all [Json.asU64, Json.ofNat]
          | _ => cases same
        exact ⟨rfl, List.mem_cons_self, number ▸ found, Nat.lt_of_not_le large, rfl⟩

theorem halveFirstCap_congr {keys : List String} {others : List (String × Json)}
    (same : ∀ key ∈ keys, Json.field others key = Json.field object key) :
    (halveFirstCap others keys).map (·.1) = (halveFirstCap object keys).map (·.1) := by
  induction keys with
  | nil => rfl
  | cons key rest ih =>
    have later := ih fun other listed => same other (List.mem_cons_of_mem key listed)
    rw [halveFirstCap, halveFirstCap, same key List.mem_cons_self]
    cases (Json.field object key).bind Json.asU64 with
    | none => exact later
    | some current =>
      dsimp only
      split
      · exact later
      · rfl

theorem repr_length_mono {less more : Nat} (le : less ≤ more) :
    (toString less).toList.length ≤ (toString more).toList.length := by
  rw [String.length_toList, String.length_toList]
  have digits := (Nat.length_repr_le_iff (Nat.length_repr_pos (n := more))).1 (Nat.le_refl _)
  exact (Nat.length_repr_le_iff Nat.length_repr_pos).2 (Nat.lt_of_le_of_lt le digits)

theorem cap_not_context (listed : key ∈ generationCapFields) :
    key ≠ "messages" ∧ key ≠ "input" := by
  revert key
  decide

def halvedPayload (payload : Json) : Json :=
  ((halveGenerationCapForContextRetry payload).map (·.2)).getD payload

-- The halving touches neither the entries nor anything that is not a cap, and is seen.
theorem halvedPayload_cases (payload : Json) :
    (halveGenerationCapForContextRetry payload = none ∧ halvedPayload payload = payload) ∨
    ∃ object key current, payload = .object object ∧ key ∈ generationCapFields ∧
      (halveGenerationCapForContextRetry payload).isSome ∧
      Json.field object key = some (.ofNat current) ∧ 1 < current ∧
      halvedPayload payload =
        .object (Json.setField object key (.ofNat (max (current / 2) 1))) := by
  cases halved : halveGenerationCapForContextRetry payload with
  | none => exact .inl ⟨rfl, by simp [halvedPayload, halved]⟩
  | some result =>
    obtain ⟨cap, after⟩ := result
    obtain ⟨object, same, found⟩ := Option.bind_eq_some_iff.1 halved
    have known : payload = .object object := by
      cases payload <;> simp_all [Json.asObject]
    obtain ⟨written, listed, present, large, half⟩ := halveFirstCap_spec found
    refine .inr ⟨object, cap.1, cap.2.1, known, listed, rfl, present, large, ?_⟩
    rw [halvedPayload, halved, ← half]
    exact written

theorem contextEntries_halved (payload : Json) :
    contextEntries (halvedPayload payload) = contextEntries payload := by
  rcases halvedPayload_cases payload with
    ⟨-, same⟩ | ⟨object, key, current, rfl, listed, -, -, -, same⟩
  · rw [same]
  · obtain ⟨messages, input⟩ := cap_not_context listed
    rw [same]
    simp [contextEntries, Json.field_setField, messages, input]

variable {readStream : String → List (Option Json)}

theorem baseline_halved (readStream : String → List (Option Json)) (payload : Json) :
    estimatePayloadBaselineTokens (serdeCodec readStream) (halvedPayload payload) ≤
      estimatePayloadBaselineTokens (serdeCodec readStream) payload := by
  rcases halvedPayload_cases payload with
    ⟨-, same⟩ | ⟨object, key, current, rfl, listed, -, present, large, same⟩
  · rw [same]
  · obtain ⟨messages, input⟩ := cap_not_context listed
    have half : max (current / 2) 1 ≤ current := by omega
    have printed : (serdePrint (.ofNat (max (current / 2) 1))).length ≤
        (serdePrint (.ofNat current)).length := by
      simpa [Json.ofNat, serdePrint] using repr_length_mono half
    have shorter := length_print_setField
      (show Json.field (baseFields object) key = some (.ofNat current) by
        rw [field_baseFields messages input, present]) printed
    rw [same, estimate_baseline, estimate_baseline, baseFields_other messages input,
      estimate_object, estimate_object]
    omega

theorem baseline_halved_trimmed {object : List (String × Json)} {field : String}
    (context : field = "messages" ∨ field = "input") (entries : Json) (codec : JsonCodec) :
    estimatePayloadBaselineTokens codec
        (halvedPayload (.object (Json.setField object field entries))) =
      estimatePayloadBaselineTokens codec (halvedPayload (.object object)) := by
  have untouched : ∀ key ∈ generationCapFields,
      Json.field (Json.setField object field entries) key = Json.field object key := by
    intro key listed
    obtain ⟨messages, input⟩ := cap_not_context listed
    rw [Json.field_setField, if_neg]
    rcases context with rfl | rfl
    · exact Ne.symm messages
    · exact Ne.symm input
  have caps := halveFirstCap_congr untouched
  cases halved : halveFirstCap object generationCapFields with
  | none =>
    rw [halved, Option.map_none, Option.map_eq_none_iff] at caps
    have first : halvedPayload (.object object) = .object object := by
      simp [halvedPayload, halveGenerationCapForContextRetry, Json.asObject, halved]
    have second : halvedPayload (.object (Json.setField object field entries)) =
        .object (Json.setField object field entries) := by
      simp [halvedPayload, halveGenerationCapForContextRetry, Json.asObject, caps]
    rw [first, second, estimate_baseline, estimate_baseline, baseFields_context context]
  | some result =>
    obtain ⟨cap, after⟩ := result
    rw [halved, Option.map_some, Option.map_eq_some_iff] at caps
    obtain ⟨⟨cap', after'⟩, found, same⟩ := caps
    cases same
    obtain ⟨written, listed, -⟩ := halveFirstCap_spec halved
    obtain ⟨written', -⟩ := halveFirstCap_spec found
    obtain ⟨messages, input⟩ := cap_not_context listed
    have first : halvedPayload (.object object) = after := by
      simp [halvedPayload, halveGenerationCapForContextRetry, Json.asObject, halved]
    have second : halvedPayload (.object (Json.setField object field entries)) = after' := by
      simp [halvedPayload, halveGenerationCapForContextRetry, Json.asObject, found]
    rw [first, second, written, written', estimate_baseline, estimate_baseline,
      baseFields_other messages input, baseFields_other messages input,
      baseFields_context context]

end Payload

section Minimum

variable {readStream : String → List (Option Json)} {entries : List Json}

theorem candidate_of_minimum {index : Nat} {entry : Json} (found : entries[index]? = some entry)
    (free : index ∉ (analyzeContextEntries entries).guarded)
    (changed : minimumEntry (serdeCodec readStream) (analyzeContextEntries entries) index entry ≠
      entry) :
    index ∈ trimCandidates entries (analyzeContextEntries entries) ∧
      minimumEntry (serdeCodec readStream) (analyzeContextEntries entries) index entry =
        taken (compactCandidate (serdeCodec readStream) (analyzeContextEntries entries)) index
          entry := by
  unfold minimumEntry at changed ⊢
  dsimp only at changed ⊢
  split at changed
  next may =>
    refine ⟨?_, by rw [if_pos may]; rfl⟩
    by_cases compactable : index ∈ (analyzeContextEntries entries).compactableToolResults
    · exact List.mem_append_left _ ((List.mem_insertionSort _).2 compactable)
    · refine List.mem_append_right _ (List.mem_map.2 ⟨(entry, index), ?_, rfl⟩)
      refine List.mem_filter.2 ⟨List.mem_zipIdx_iff_getElem?.2 found, ?_⟩
      simpa [free, compactable] using may
  next => exact absurd rfl changed

theorem compact_fixed {codec : JsonCodec} {protection : ContextProtection} {index : Nat}
    {entry : Json}
    (same : taken (compactCandidate codec protection) index
      (taken (truncateCandidate codec protection) index entry) = entry) :
    taken (compactCandidate codec protection) index entry = entry := by
  have untruncated : taken (truncateCandidate codec protection) index entry = entry := by
    unfold taken
    cases truncated : truncateCandidate codec protection index entry with
    | none => rfl
    | some middle =>
      have less := truncateCandidate_lighter truncated
      have through : taken (compactCandidate codec protection) index middle = entry := by
        simpa [taken, truncated] using same
      unfold taken at through
      cases compacted : compactCandidate codec protection index middle with
      | none =>
        rw [compacted, Option.getD_none] at through
        exact through
      | some after =>
        rw [compacted, Option.getD_some] at through
        have fewer := compactCandidate_lighter compacted
        rw [through] at fewer
        exact absurd (fewer.trans less) (Nat.lt_irrefl _)
  rwa [untruncated] at same

theorem compactions_fixed {codec : JsonCodec} {protection : ContextProtection}
    (still : compactedEntries codec entries protection (trimCandidates entries protection).length =
      entries) (index : Nat) (entry : Json) (found : entries[index]? = some entry)
    (candidate : index ∈ trimCandidates entries protection) :
    taken (compactCandidate codec protection) index entry = entry := by
  have here := congrArg (fun entries => entries[index]?) still
  simp only [compactedEntries, truncatedEntries, getElem?_changeAt, List.take_length, found,
    Option.map_some, if_pos candidate, Option.some.injEq] at here
  exact compact_fixed here

theorem estimate_le_minimum
    (fixed : ∀ (index : Nat) (entry : Json), entries[index]? = some entry →
      index ∈ trimCandidates entries (analyzeContextEntries entries) →
      taken (compactCandidate (serdeCodec readStream) (analyzeContextEntries entries)) index entry =
        entry) :
    estimateEntriesTokens (serdeCodec readStream) entries ≤
      (entries.mapIdx (minimumEntryTokens (serdeCodec readStream)
        (analyzeContextEntries entries))).sum := by
  have whole : estimateEntriesTokens (serdeCodec readStream) entries =
      (entries.mapIdx fun _ entry =>
        estimateTokensFromValue (serdeCodec readStream) entry).sum := by
    simpa using estimate_changeAt (serdeCodec readStream) (fun _ entry => entry) [] entries
  rw [whole]
  refine sum_mapIdx_le entries fun index entry found => ?_
  unfold minimumEntryTokens
  split
  next => exact Nat.le_refl _
  next free =>
    have kept : minimumEntry (serdeCodec readStream) (analyzeContextEntries entries) index entry =
        entry := by
      by_contra changed
      obtain ⟨candidate, same⟩ := candidate_of_minimum found free changed
      exact changed (same.trans (fixed index entry found candidate))
    rw [kept, Nat.min_self]

end Minimum

def payloadEntries (payload : Json) : List Json :=
  (contextEntries payload).getD []

def NoEntryGrows (codec : JsonCodec) (before after : Json) : Prop :=
  ∀ (index : Nat) old new, (payloadEntries before)[index]? = some old →
    (payloadEntries after)[index]? = some new →
    estimateTokensFromValue codec new ≤ estimateTokensFromValue codec old

/-- Some total on the way to the retry is within its target, or the last one is, with the cap
halved. -/
def RetryAttained (codec : JsonCodec) (payload : Json) (budget : ContextBudgetReport) : Prop :=
  (∃ count ≤ (trimCandidates (payloadEntries payload) (contextProtection payload)).length,
      estimatePayloadBaselineTokens codec payload +
          truncatedTokens codec (payloadEntries payload) (contextProtection payload) count ≤
        retryTargetTokens budget) ∨
    estimatePayloadBaselineTokens codec (halvedPayload payload) +
        compactedTokens codec (payloadEntries payload) (contextProtection payload)
          (trimCandidates (payloadEntries payload) (contextProtection payload)).length ≤
      retryTargetTokens budget

section Main

variable {payload : Json}

theorem payload_distinct (payload : Json) :
    (trimCandidates (payloadEntries payload) (contextProtection payload)).Nodup := by
  unfold payloadEntries contextProtection
  cases contextEntries payload with
  | none => exact List.nodup_nil
  | some entries => exact candidates_distinct entries

theorem payload_compactions_fixed {readStream : String → List (Option Json)}
    (fixed : ∀ (index : Nat) (entry : Json), (payloadEntries payload)[index]? = some entry →
      index ∈ trimCandidates (payloadEntries payload) (contextProtection payload) →
      taken (compactCandidate (serdeCodec readStream) (contextProtection payload)) index entry =
        entry) :
    estimateEntriesTokens (serdeCodec readStream) (payloadEntries payload) ≤
      estimateContextMinimumTokens (serdeCodec readStream) payload (contextProtection payload) := by
  unfold estimateContextMinimumTokens
  unfold payloadEntries contextProtection at *
  cases known : contextEntries payload with
  | none => exact Nat.zero_le _
  | some entries =>
    rw [known] at fixed
    exact estimate_le_minimum fixed

theorem trimmed_entries (codec : JsonCodec) (payload : Json) (targetTokens : Nat)
    (protection : ContextProtection) :
    payloadEntries (trimContextEntriesWithProtection codec payload targetTokens protection).1 =
      (trimEntriesToBudget codec (payloadEntries payload) targetTokens protection).1 := by
  rcases trimWithProtection_cases codec payload targetTokens protection with
    ⟨none, same⟩ | ⟨object, key, entries, rfl, context, present, known, read, same⟩
  · -- There is no entry to change.
    have empty : payloadEntries payload = [] := by rw [payloadEntries, none, Option.getD_none]
    rw [same, empty]
    rcases Relation.ReflTransGen.cases_head
        (trimEntriesToBudget_steps codec [] targetTokens protection) with still | ⟨_, ⟨-, step⟩, -⟩
    · exact still
    · obtain ⟨index, entry, changed, here, -⟩ := step
      simp at here
  · rw [same, payloadEntries, read, payloadEntries, known, Option.getD_some, Option.getD_some]

theorem le_retryTarget_iff (budget : ContextBudgetReport) (tokens : Nat) :
    10 * tokens ≤ 9 * budget.allowedInputTokens ↔ tokens ≤ retryTargetTokens budget := by
  have small := budget.allowed_lt
  unfold retryTargetTokens
  rw [Nat.min_eq_left (by omega)]
  omega

variable {codec : JsonCodec} {targetTokens : Nat} {protection : ContextProtection}

theorem trimmed_baseline :
    estimatePayloadBaselineTokens codec (halvedPayload
        (trimContextEntriesWithProtection codec payload targetTokens protection).1) =
      estimatePayloadBaselineTokens codec (halvedPayload payload) := by
  rcases trimWithProtection_cases codec payload targetTokens protection with
    ⟨-, same⟩ | ⟨object, key, entries, rfl, context, -, -, -, same⟩
  · rw [same]
  · rw [same]
    exact baseline_halved_trimmed context _ codec

theorem counted_iff (stats : ContextTrimStats) :
    (decide (0 < stats.compactedEntries) || decide (0 < stats.truncatedBlocks)) = true ↔
      Counted stats := by
  rw [Bool.or_eq_true, decide_eq_true_eq, decide_eq_true_eq, Counted]

theorem trimmed_unchanged (codec : JsonCodec) (payload : Json) (targetTokens : Nat)
    (protection : ContextProtection) :
    trimContextEntriesWithProtection codec payload targetTokens protection = (payload, {}) ∨
      payloadEntries (trimContextEntriesWithProtection codec payload targetTokens protection).1 ≠
          payloadEntries payload ∧
        Counted (trimContextEntriesWithProtection codec payload targetTokens protection).2 := by
  rcases trimWithProtection_cases codec payload targetTokens protection with
    ⟨-, same⟩ | ⟨object, key, entries, rfl, context, present, known, read, same⟩
  · exact .inl same
  · have held : payloadEntries (.object object) = entries := by
      rw [payloadEntries, known, Option.getD_some]
    rw [trimmed_entries, held, same]
    rcases trimEntriesToBudget_unchanged codec entries targetTokens protection with
      still | ⟨differs, counted⟩
    · refine .inl ?_
      rw [still, setField_self present]
    · exact .inr ⟨differs, counted⟩

def retriedPayload (codec : JsonCodec) (payload : Json) (budget : ContextBudgetReport) : Json :=
  halvedPayload (trimContextEntriesWithProtection codec payload
    (retryTargetTokens budget - estimatePayloadBaselineTokens codec payload)
    (contextProtection payload)).1

theorem halved_iff (payload : Json) :
    (halveGenerationCapForContextRetry payload).isSome = true ↔
      halvedPayload payload ≠ payload := by
  rcases halvedPayload_cases payload with
    ⟨none, same⟩ | ⟨object, key, current, rfl, -, halved, present, large, written⟩
  · simp [none, same]
  · refine iff_of_true halved fun same => ?_
    rw [written] at same
    have read := congrArg (Json.get · key) same
    rw [Json.get_object, Json.get_object, Json.field_setField, if_pos rfl, present] at read
    have half : max (current / 2) 1 = current := by
      simpa [Json.ofNat] using read
    omega

theorem retry_refused {budget : ContextBudgetReport}
    (exceeds : retryTargetTokens budget < estimatePayloadBaselineTokens codec payload +
      estimateContextMinimumTokens codec payload (contextProtection payload)) :
    (compactForContextOverflowRetry codec payload budget).1.changed = false ∧
      (compactForContextOverflowRetry codec payload budget).2 = payload := by
  rw [compactForContextOverflowRetry, if_pos exceeds]
  exact ⟨rfl, rfl⟩

theorem retry_taken {budget : ContextBudgetReport}
    (fits : estimatePayloadBaselineTokens codec payload +
      estimateContextMinimumTokens codec payload (contextProtection payload) ≤
        retryTargetTokens budget) :
    (compactForContextOverflowRetry codec payload budget).2 = retriedPayload codec payload budget ∧
      ((compactForContextOverflowRetry codec payload budget).1.changed = false ↔
        retriedPayload codec payload budget = payload) ∧
      (retriedPayload codec payload budget = payload →
        trimContextEntriesWithProtection codec payload
          (retryTargetTokens budget - estimatePayloadBaselineTokens codec payload)
          (contextProtection payload) = (payload, {})) := by
  rw [compactForContextOverflowRetry, if_neg (Nat.not_lt.2 fits), retriedPayload]
  generalize outcome : trimContextEntriesWithProtection codec payload
    (retryTargetTokens budget - estimatePayloadBaselineTokens codec payload)
    (contextProtection payload) = trimmed
  refine ⟨rfl, ?_⟩
  have changed : ((halveGenerationCapForContextRetry trimmed.1).isSome ||
      decide (0 < trimmed.2.compactedEntries) || decide (0 < trimmed.2.truncatedBlocks)) = false ↔
        halvedPayload trimmed.1 = trimmed.1 ∧ ¬ Counted trimmed.2 := by
    rw [Bool.or_assoc, Bool.or_eq_false_iff, ← Bool.not_eq_true, ← Bool.not_eq_true, counted_iff,
      halved_iff, not_not]
  have untouched := trimmed_unchanged codec payload
    (retryTargetTokens budget - estimatePayloadBaselineTokens codec payload)
    (contextProtection payload)
  rw [outcome] at untouched
  rcases untouched with same | ⟨differs, counted⟩
  · refine ⟨changed.trans ?_, fun _ => same⟩
    rw [same]
    exact and_iff_left (by simp [Counted])
  · have other : halvedPayload trimmed.1 ≠ payload := by
      intro same
      refine differs ?_
      rw [payloadEntries, ← contextEntries_halved, same, payloadEntries]
    exact ⟨changed.trans (iff_of_false (fun both => both.2 counted) other),
      fun same => absurd same other⟩

theorem retry_within_iff (readStream : String → List (Option Json)) (payload : Json)
    (budget : ContextBudgetReport)
    (fits : estimatePayloadBaselineTokens (serdeCodec readStream) payload +
      estimateContextMinimumTokens (serdeCodec readStream) payload (contextProtection payload) ≤
        retryTargetTokens budget) :
    (retriedPayload (serdeCodec readStream) payload budget = payload ∨
      estimatePayloadBaselineTokens (serdeCodec readStream)
          (retriedPayload (serdeCodec readStream) payload budget) +
        estimateContextEntryTokens (serdeCodec readStream)
          (retriedPayload (serdeCodec readStream) payload budget) ≤ retryTargetTokens budget) ↔
    RetryAttained (serdeCodec readStream) payload budget := by
  have lower := baseline_halved readStream payload
  have entries : estimateContextEntryTokens (serdeCodec readStream)
      (retriedPayload (serdeCodec readStream) payload budget) =
      estimateEntriesTokens (serdeCodec readStream) (trimEntriesToBudget (serdeCodec readStream)
        (payloadEntries payload) (retryTargetTokens budget -
          estimatePayloadBaselineTokens (serdeCodec readStream) payload)
        (contextProtection payload)).1 := by
    rw [estimateContextEntryTokens_eq, retriedPayload, contextEntries_halved]
    exact congrArg _ (trimmed_entries _ payload _ _)
  have baseline : estimatePayloadBaselineTokens (serdeCodec readStream)
      (retriedPayload (serdeCodec readStream) payload budget) =
      estimatePayloadBaselineTokens (serdeCodec readStream) (halvedPayload payload) :=
    trimmed_baseline
  rw [entries, baseline]
  rcases trimEntriesToBudget_cases (serdeCodec readStream) (retryTargetTokens budget -
      estimatePayloadBaselineTokens (serdeCodec readStream) payload) (payload_distinct payload) with
    ⟨count, bound, result, -, within⟩ | ⟨exceeded, count, bound, result, -, stopped⟩
  · have total : estimateEntriesTokens (serdeCodec readStream) (truncatedEntries
        (serdeCodec readStream) (payloadEntries payload) (contextProtection payload) count) ≤
        retryTargetTokens budget -
          estimatePayloadBaselineTokens (serdeCodec readStream) payload := within
    rw [result]
    exact iff_of_true (.inr (by omega)) (.inl ⟨count, bound, by omega⟩)
  · have least := compactedTokens_antitone readStream (payloadEntries payload)
      (contextProtection payload) bound
    have never (earlier : Nat) (atMost : earlier ≤
        (trimCandidates (payloadEntries payload) (contextProtection payload)).length) :=
      exceeded earlier atMost
    have total : estimateEntriesTokens (serdeCodec readStream) (compactedEntries
        (serdeCodec readStream) (payloadEntries payload) (contextProtection payload) count) =
        compactedTokens (serdeCodec readStream) (payloadEntries payload)
          (contextProtection payload) count := rfl
    rw [result, total]
    constructor
    · rintro (same | within)
      · -- Nothing changed, so the entries are at their minimum.
        have kept := (retry_taken fits).2.2 same
        have still := trimmed_entries (serdeCodec readStream) payload (retryTargetTokens budget -
          estimatePayloadBaselineTokens (serdeCodec readStream) payload) (contextProtection payload)
        rw [kept, result] at still
        rcases stopped with rfl | stopped
        · have minimal := payload_compactions_fixed (compactions_fixed still.symm)
          rw [still] at minimal
          have last : compactedTokens (serdeCodec readStream) (payloadEntries payload)
              (contextProtection payload)
              (trimCandidates (payloadEntries payload) (contextProtection payload)).length ≤
              estimateContextMinimumTokens (serdeCodec readStream) payload
                (contextProtection payload) := minimal
          exact .inr (by omega)
        · exact .inr (by omega)
      · exact .inr (by omega)
    · rintro (⟨earlier, atMost, within⟩ | within)
      · have exceeding := never earlier atMost
        omega
      · refine .inr ?_
        rcases stopped with rfl | stopped
        · exact within
        · omega

theorem noEntryGrows_iff (readStream : String → List (Option Json)) (payload : Json)
    (targetTokens : Nat) :
    NoEntryGrows (serdeCodec readStream) payload
        (trimContextEntries (serdeCodec readStream) payload targetTokens).1 ↔
      TruncationsHarmless (serdeCodec readStream) (payloadEntries payload)
        (contextProtection payload) targetTokens := by
  rw [NoEntryGrows, trimContextEntries, trimmed_entries]
  exact trimmed_no_longer (payload_distinct payload)

end Main

def plainLetters (size : Nat) : Text := List.replicate size 'a'

def assistantMessage (content : String) : Json :=
  .object [("role", .string "assistant"), ("content", .string content)]

theorem print_assistantMessage (content : String) :
    (serdePrint (assistantMessage content)).length =
      33 + (content.toList.flatMap serdeEscape).length := by
  have role : (serdeQuote "role").length = 6 := by decide
  have speaker : (serdeQuote "assistant").length = 11 := by decide
  have name : (serdeQuote "content").length = 9 := by decide
  simp only [assistantMessage, serdePrint, serdePrintFields, List.length_cons, List.length_append,
    List.length_nil, role, speaker, name]
  simp only [serdeQuote, List.length_cons, List.length_append, List.length_nil]
  omega

theorem escape_letters (size : Nat) :
    (plainLetters size).flatMap serdeEscape = plainLetters size := by
  induction size with
  | zero => rfl
  | succ size ih =>
    rw [plainLetters, List.replicate_succ, List.flatMap_cons]
    exact congrArg _ ih

theorem trim_letters (size : Nat) : Text.trim (plainLetters size) = plainLetters size := by
  have kept : (plainLetters size).dropWhile Text.isWhitespace = plainLetters size := by
    cases size with
    | zero => rfl
    | succ size =>
      rw [plainLetters, List.replicate_succ]
      exact List.dropWhile_cons_of_neg (by decide)
  have same : (plainLetters size).reverse = plainLetters size := List.reverse_replicate ..
  rw [Text.trim, kept, same, kept, same]

theorem summarize_letters {size : Nat} (long : 800 < size) (label : String) :
    summarizeText (plainLetters size) 800 label =
      "[gateway-summary " ++ label ++ " original_chars=" ++ toString size ++ " head=\"" ++
        String.ofList (plainLetters 400) ++ "\" tail=\"" ++ String.ofList (plainLetters 400) ++
          "\"]" := by
  have length : (plainLetters size).length = size := List.length_replicate
  have head : spaced ((plainLetters size).take 400) = plainLetters 400 := by
    rw [plainLetters, List.take_replicate, Nat.min_eq_left (by omega), spaced, List.map_replicate]
    rfl
  have tail : spaced ((plainLetters size).drop (size - 400)) = plainLetters 400 := by
    rw [plainLetters, List.drop_replicate, spaced, List.map_replicate,
      show size - (size - 400) = 400 by omega]
    rfl
  unfold summarizeText
  rw [if_neg (by omega)]
  dsimp only
  rw [length, show max 800 16 / 2 = 400 from rfl, show max 800 16 - 400 = 400 from rfl, head, tail,
    trim_letters]

def lettersSummary (size : Nat) : String :=
  "[gateway-summary " ++ "message" ++ " original_chars=" ++ toString size ++ " head=\"" ++
    String.ofList (plainLetters 400) ++ "\" tail=\"" ++ String.ofList (plainLetters 400) ++ "\"]"

theorem lettersSummary_length (size : Nat) :
    (lettersSummary size).toList.length = 857 + (toString size).toList.length := by
  have letters : (plainLetters 400).length = 400 := List.length_replicate
  have first : ("[gateway-summary ".toList ++ "message".toList ++
      " original_chars=".toList).length = 40 := by decide
  have second : " head=\"".toList.length = 7 := by decide
  have third : "\" tail=\"".toList.length = 8 := by decide
  have fourth : "\"]".toList.length = 2 := by decide
  rw [List.length_append, List.length_append] at first
  unfold lettersSummary
  simp only [String.toList_append, String.toList_ofList, List.length_append]
  omega

theorem lettersSummary_printed {size : Nat}
    (plain : (toString size).toList.flatMap serdeEscape = (toString size).toList) :
    ((lettersSummary size).toList.flatMap serdeEscape).length =
      861 + (toString size).toList.length := by
  have letters : (plainLetters 400).length = 400 := List.length_replicate
  have first : (("[gateway-summary ".toList ++ "message".toList ++
      " original_chars=".toList).flatMap serdeEscape).length = 40 := by decide
  have second : (" head=\"".toList.flatMap serdeEscape).length = 8 := by decide
  have third : ("\" tail=\"".toList.flatMap serdeEscape).length = 10 := by decide
  have fourth : ("\"]".toList.flatMap serdeEscape).length = 3 := by decide
  rw [List.flatMap_append, List.flatMap_append, List.length_append, List.length_append] at first
  unfold lettersSummary
  simp only [String.toList_append, String.toList_ofList, List.flatMap_append, List.length_append,
    escape_letters, plain]
  omega

theorem truncate_letters {size : Nat} (long : 800 < size)
    (shorter : (857 + (toString size).toList.length + 3) / 4 < (size + 3) / 4)
    (readStream : String → List (Option Json)) :
    truncateEntryContent (serdeCodec readStream) 800 "message" false
        (assistantMessage (String.ofList (plainLetters size))) =
      some (assistantMessage (lettersSummary size)) := by
  have length : (plainLetters size).length = size := List.length_replicate
  have fewer : estimateTokensFromValue (serdeCodec readStream) (.string (lettersSummary size)) <
      estimateTokensFromValue (serdeCodec readStream)
        (.string (String.ofList (plainLetters size))) := by
    rw [estimate_string, estimate_string, lettersSummary_length, String.toList_ofList, length]
    exact shorter
  have replaced : truncateValueField (serdeCodec readStream) 800 "message"
      (.string (String.ofList (plainLetters size))) = some (.string (lettersSummary size)) := by
    simp only [truncateValueField, valueToText, String.toList_ofList, length]
    rw [if_neg (by omega), summarize_letters long, replaceIfSmaller, if_neg]
    · rfl
    · intro taken
      rw [Bool.or_eq_true, decide_eq_true_eq, decide_eq_true_eq] at taken
      rcases taken with same | more
      · exact Nat.lt_irrefl _ (same ▸ fewer)
      · exact Nat.not_le.2 fewer more
  simp [truncateEntryContent, assistantMessage, Json.asObject, changeField, Json.field, replaced,
    Json.setField]

theorem estimate_assistantMessage (readStream : String → List (Option Json)) (content : String) :
    estimateTokensFromValue (serdeCodec readStream) (assistantMessage content) =
      (33 + (content.toList.flatMap serdeEscape).length + 3) / 4 := by
  rw [← print_assistantMessage]
  exact estimate_object _

def contextMessages (first second : String) : List Json :=
  assistantMessage first :: assistantMessage second ::
    List.replicate 8 (.object [("role", .string "user"), ("content", .string "x")])

def longContext : Json :=
  .object [("messages", .array (contextMessages (String.ofList (plainLetters 861))
    (String.ofList (plainLetters 1500))))]

theorem estimate_contextMessages (readStream : String → List (Option Json))
    (first second : String) :
    estimateEntriesTokens (serdeCodec readStream) (contextMessages first second) =
      (33 + (first.toList.flatMap serdeEscape).length + 3) / 4 +
        ((33 + (second.toList.flatMap serdeEscape).length + 3) / 4 + 64) := by
  have kept : (List.replicate 8
      (Json.object [("role", .string "user"), ("content", .string "x")])).map
        (estimateTokensFromValue (serdeCodec readStream)) = List.replicate 8 8 := by
    rw [List.map_replicate, estimate_object]
    rfl
  rw [estimateEntriesTokens, contextMessages, List.map_cons, List.map_cons, kept, List.sum_cons,
    List.sum_cons, estimate_assistantMessage, estimate_assistantMessage]
  rfl

theorem changeAt_pair (change : Nat → Json → Json) (first second : Json) (rest : List Json) :
    changeAt change [0, 1] (first :: second :: rest) =
      change 0 first :: change 1 second :: rest := by
  apply List.ext_getElem?
  intro index
  rw [getElem?_changeAt]
  rcases index with _ | _ | index
  · rfl
  · rfl
  · simp

section LongContext

variable (readStream : String → List (Option Json))

theorem truncate_longContext {size : Nat} (long : 800 < size)
    (shorter : (857 + (toString size).toList.length + 3) / 4 < (size + 3) / 4) (index : Nat) :
    taken (truncateCandidate (serdeCodec readStream) (contextProtection longContext)) index
        (assistantMessage (String.ofList (plainLetters size))) =
      assistantMessage (lettersSummary size) := by
  have compactable : (contextProtection longContext).compactableToolResults = [] := by decide
  have plain : truncateCandidate (serdeCodec readStream) (contextProtection longContext) index =
      truncateEntryContent (serdeCodec readStream) 800 "message" false := by
    simp [truncateCandidate, compactable, contextMessageTruncateChars]
  rw [taken, plain, truncate_letters long shorter, Option.getD_some]

theorem longContext_truncated :
    truncatedEntries (serdeCodec readStream) (payloadEntries longContext)
        (contextProtection longContext) 2 =
      contextMessages (lettersSummary 861) (lettersSummary 1500) := by
  have candidates : trimCandidates (payloadEntries longContext) (contextProtection longContext) =
      [0, 1] := by decide
  have entries : payloadEntries longContext = contextMessages (String.ofList (plainLetters 861))
      (String.ofList (plainLetters 1500)) := rfl
  rw [truncatedEntries, candidates, entries, contextMessages, List.take_of_length_le (by decide),
    changeAt_pair, truncate_longContext readStream (by decide) (by decide),
    truncate_longContext readStream (by decide) (by decide), contextMessages]

end LongContext

end ChatGateway
