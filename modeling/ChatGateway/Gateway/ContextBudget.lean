import ChatGateway.Gateway.ContextSurvival

set_option autoImplicit false

/-!
# The context budget

The tokens a request is estimated at before and after it is shortened, and the retry when an
upstream found it too long.
-/

namespace ChatGateway

section Budget

variable (codec : JsonCodec)

def estimateContextEntryTokens (payload : Json) : Nat :=
  match (payload.get "messages").bind Json.asArray with
  | some messages => estimateEntriesTokens codec messages
  | none =>
    match (payload.get "input").bind Json.asArray with
    | some input => estimateEntriesTokens codec input
    | none => 0

def estimatePayloadBaselineTokens (payload : Json) : Nat :=
  match payload.asObject with
  | some object =>
    estimateTokensFromValue codec
      (.object (Json.removeField (Json.removeField object "messages") "input"))
  | none => estimateTokensFromValue codec payload

def minimumEntry (protection : ContextProtection) (index : Nat) (entry : Json) : Json :=
  let toolResult : Bool := index ∈ protection.compactableToolResults
  if toolResult || entryIsPlainConversation entry then
    (compactEntry codec toolResult entry).getD entry
  else entry

def minimumEntryTokens (protection : ContextProtection) (index : Nat) (entry : Json) : Nat :=
  if index ∈ protection.guarded then estimateTokensFromValue codec entry
  else
    min (estimateTokensFromValue codec entry)
      (estimateTokensFromValue codec (minimumEntry codec protection index entry))

def estimateContextMinimumTokens (payload : Json) (protection : ContextProtection) : Nat :=
  (((contextEntries payload).getD []).mapIdx (minimumEntryTokens codec protection)).sum

structure ContextBudgetReport where
  allowedInputTokens : Nat
  /-- A context limit has 32 bits. -/
  allowed_lt : allowedInputTokens < 2 ^ 32

structure ContextOverflowRetryReport where
  changed : Bool
  protectedMinimumTokens : Nat
  compactedItems : Nat
deriving DecidableEq, Repr

def halveFirstCap (object : List (String × Json)) :
    List String → Option ((String × Nat × Nat) × Json)
  | [] => none
  | key :: rest =>
    match (Json.field object key).bind Json.asU64 with
    | none => halveFirstCap object rest
    | some current =>
      if current ≤ 1 then halveFirstCap object rest
      else
        let reduced := max (current / 2) 1
        some ((key, current, reduced), .object (Json.setField object key (.ofNat reduced)))

def generationCapFields : List String :=
  ["max_output_tokens", "max_tokens", "max_completion_tokens"]

def halveGenerationCapForContextRetry (payload : Json) : Option ((String × Nat × Nat) × Json) :=
  payload.asObject.bind fun object => halveFirstCap object generationCapFields

-- The multiplication saturates at 64 bits.
def retryTargetTokens (budget : ContextBudgetReport) : Nat :=
  min (budget.allowedInputTokens * 9) (2 ^ 64 - 1) / 10

def compactForContextOverflowRetry (payload : Json) (budget : ContextBudgetReport) :
    ContextOverflowRetryReport × Json :=
  let target := retryTargetTokens budget
  let baselineTokens := estimatePayloadBaselineTokens codec payload
  let protection := contextProtection payload
  let protectedMinimumTokens :=
    baselineTokens + estimateContextMinimumTokens codec payload protection
  if target < protectedMinimumTokens then (⟨false, protectedMinimumTokens, 0⟩, payload)
  else
    let (payload, stats) :=
      trimContextEntriesWithProtection codec payload (target - baselineTokens) protection
    let halved := halveGenerationCapForContextRetry payload
    let changed := halved.isSome || 0 < stats.compactedEntries || 0 < stats.truncatedBlocks
    (⟨changed, protectedMinimumTokens, stats.compactedEntries⟩, (halved.map (·.2)).getD payload)

end Budget

def changeAt (change : Nat → Json → Json) (indices : List Nat) (entries : List Json) : List Json :=
  entries.mapIdx fun index entry => if index ∈ indices then change index entry else entry

section Passes

variable {change : Nat → Json → Json} {entries : List Json}

@[simp] theorem getElem?_changeAt (change : Nat → Json → Json) (indices : List Nat)
    (entries : List Json) (index : Nat) :
    (changeAt change indices entries)[index]? =
      entries[index]?.map fun entry => if index ∈ indices then change index entry else entry :=
  List.getElem?_mapIdx

@[simp] theorem changeAt_nil (change : Nat → Json → Json) (entries : List Json) :
    changeAt change [] entries = entries := by
  apply List.ext_getElem?
  simp

theorem changeAt_set {index : Nat} {entry : Json} (here : entries[index]? = some entry)
    {rest : List Nat} (absent : index ∉ rest) :
    changeAt change rest (entries.set index (change index entry)) =
      changeAt change (index :: rest) entries := by
  apply List.ext_getElem?
  intro place
  obtain ⟨below, rfl⟩ := List.getElem?_eq_some_iff.1 here
  rw [getElem?_changeAt, getElem?_changeAt]
  by_cases same : index = place
  · subst same
    simp [absent, below]
  · simp [same, Ne.symm same]

theorem changeAt_absent {index : Nat} {rest : List Nat}
    (unchanged : ∀ entry, entries[index]? = some entry → change index entry = entry) :
    changeAt change rest entries = changeAt change (index :: rest) entries := by
  apply List.ext_getElem?
  intro place
  rw [getElem?_changeAt, getElem?_changeAt]
  by_cases same : index = place
  · subst same
    cases here : entries[index]? with
    | none => rfl
    | some entry => simp [unchanged entry here]
  · simp [Ne.symm same]

end Passes

def taken (change : Nat → Json → Option Json) (index : Nat) (entry : Json) : Json :=
  (change index entry).getD entry

-- A pass changes the first candidates, up to the first total that is within the target.
theorem trimPass_spec (codec : JsonCodec) (change : Nat → Json → Option Json)
    (count : Nat → ContextTrimStats → ContextTrimStats) (targetTokens : Nat)
    {candidates : List Nat} (distinct : candidates.Nodup) (entries : List Json)
    (stats : ContextTrimStats) :
    ∃ passed ≤ candidates.length,
      (trimPass codec change count targetTokens candidates (entries, stats)).1 =
        changeAt (taken change) (candidates.take passed) entries ∧
      (∀ earlier < passed, targetTokens < estimateEntriesTokens codec
        (changeAt (taken change) (candidates.take earlier) entries)) ∧
      (passed = candidates.length ∨ estimateEntriesTokens codec
        (changeAt (taken change) (candidates.take passed) entries) ≤ targetTokens) := by
  induction candidates generalizing entries stats with
  | nil => exact ⟨0, Nat.le_refl 0, by simp [trimPass], by simp, .inl rfl⟩
  | cons index rest ih =>
    obtain ⟨absent, distinct⟩ := List.nodup_cons.1 distinct
    by_cases within : estimateEntriesTokens codec entries ≤ targetTokens
    · refine ⟨0, Nat.zero_le _, ?_, by simp, .inr (by simpa using within)⟩
      rw [trimPass, if_pos within]
      simp
    · -- The entries after this candidate's turn.
      obtain ⟨now, tally, step, same⟩ : ∃ now tally,
          trimPass codec change count targetTokens (index :: rest) (entries, stats) =
            trimPass codec change count targetTokens rest (now, tally) ∧
          ∀ sublist : List Nat, (∀ other ∈ sublist, other ∈ rest) →
            changeAt (taken change) sublist now =
              changeAt (taken change) (index :: sublist) entries := by
        rw [trimPass, if_neg within]
        cases found : entries[index]?.bind (change index) with
        | some changed =>
          obtain ⟨entry, here, changes⟩ := Option.bind_eq_some_iff.1 found
          refine ⟨entries.set index changed, count index stats, rfl, fun sublist known => ?_⟩
          have result : changed = taken change index entry := by simp [taken, changes]
          rw [result]
          exact changeAt_set here fun member => absent (known index member)
        | none =>
          refine ⟨entries, stats, rfl, fun sublist known => changeAt_absent fun entry here => ?_⟩
          rw [here, Option.bind_some] at found
          simp [taken, found]
      obtain ⟨passed, bound, result, before, stopped⟩ := ih distinct now tally
      have prefixes (length : Nat) : changeAt (taken change) (rest.take length) now =
          changeAt (taken change) ((index :: rest).take (length + 1)) entries :=
        same _ fun other member => List.mem_of_mem_take member
      rw [prefixes] at result stopped
      refine ⟨passed + 1, Nat.succ_le_succ bound, step ▸ result, ?_, ?_⟩
      · intro earlier sooner
        cases earlier with
        | zero => simpa using Nat.lt_of_not_le within
        | succ earlier =>
          rw [← prefixes]
          exact before earlier (Nat.lt_of_succ_lt_succ sooner)
      · exact stopped.imp_left (congrArg (· + 1))

section Sizes

theorem serdeEscape_length_pos (letter : Char) : 0 < (serdeEscape letter).length := by
  unfold serdeEscape
  split_ifs <;> simp

theorem le_length_flatMap_escape (text : Text) :
    text.length ≤ (text.flatMap serdeEscape).length := by
  induction text with
  | nil => exact Nat.le_refl 0
  | cons letter rest ih =>
    have escaped := serdeEscape_length_pos letter
    rw [List.flatMap_cons, List.length_append, List.length_cons]
    omega

theorem serdePrintFields_cons (field : String × Json) (rest : List (String × Json)) :
    (serdePrintFields (field :: rest)).length =
      (serdeQuote field.1).length + 1 + (serdePrint field.2).length +
        if rest = [] then 0 else 1 + (serdePrintFields rest).length := by
  obtain ⟨name, value⟩ := field
  cases rest with
  | nil => simp [serdePrintFields, Nat.add_assoc, Nat.add_comm 1]
  | cons next rest => simp [serdePrintFields, Nat.add_comm, Nat.add_left_comm]

theorem serdePrintItems_cons (item : Json) (rest : List Json) :
    (serdePrintItems (item :: rest)).length =
      (serdePrint item).length + if rest = [] then 0 else 1 + (serdePrintItems rest).length := by
  cases rest with
  | nil => simp [serdePrintItems]
  | cons next rest => simp [serdePrintItems, Nat.add_comm]

theorem setField_ne_nil (fields : List (String × Json)) (key : String) (value : Json) :
    Json.setField fields key value ≠ [] := by
  cases fields with
  | nil => simp [Json.setField]
  | cons head rest =>
    rw [Json.setField]
    split <;> simp

theorem length_print_setField {fields : List (String × Json)} {key : String} {old value : Json}
    (found : Json.field fields key = some old)
    (shorter : (serdePrint value).length ≤ (serdePrint old).length) :
    (serdePrint (.object (Json.setField fields key value))).length ≤
      (serdePrint (.object fields)).length := by
  have inside : (serdePrintFields (Json.setField fields key value)).length ≤
      (serdePrintFields fields).length := by
    induction fields with
    | nil => simp at found
    | cons head rest ih =>
      obtain ⟨name, first⟩ := head
      by_cases here : name = key
      · have same : first = old := by simpa [here] using found
        simp only [Json.setField, here, if_true, serdePrintFields_cons]
        rw [same]
        omega
      · have later : Json.field rest key = some old := by simpa [here] using found
        have nonempty : rest ≠ [] := by
          rintro rfl
          simp at later
        simp only [Json.setField, here, if_false, serdePrintFields_cons,
          setField_ne_nil, nonempty]
        exact Nat.add_le_add_left (Nat.add_le_add_left (ih later) 1) _
  simpa [serdePrint] using inside

theorem length_print_array (items : List Json) (change : Json → Json)
    (shorter : ∀ item, (serdePrint (change item)).length ≤ (serdePrint item).length) :
    (serdePrint (.array (items.map change))).length ≤ (serdePrint (.array items)).length := by
  have inside : (serdePrintItems (items.map change)).length ≤ (serdePrintItems items).length := by
    induction items with
    | nil => exact Nat.le_refl _
    | cons item rest ih =>
      have first := shorter item
      rw [List.map_cons, serdePrintItems_cons, serdePrintItems_cons]
      cases rest with
      | nil => simpa using first
      | cons next rest =>
        simp only [List.map_cons, reduceCtorEq, if_false] at ih ⊢
        omega
  simpa [serdePrint] using inside

end Sizes

section Compaction

variable {readStream : String → List (Option Json)}

def Shortens (change : Json → Option Json) : Prop :=
  ∀ value after, change value = some after →
    (serdePrint after).length ≤ (serdePrint value).length

@[simp] theorem estimate_string (text : String) :
    estimateTokensFromValue (serdeCodec readStream) (.string text) = (text.toList.length + 3) / 4 :=
  rfl

theorem estimate_object (fields : List (String × Json)) :
    estimateTokensFromValue (serdeCodec readStream) (.object fields) =
      ((serdePrint (.object fields)).length + 3) / 4 := by
  simp [estimateTokensFromValue, estimateTokensFromText, serdeCodec]

theorem lt_print_of_estimate_lt {value : Json} {size : Nat}
    (more : (size + 3) / 4 < estimateTokensFromValue (serdeCodec readStream) value) :
    4 * ((size + 3) / 4) < (serdePrint value).length := by
  cases value with
  | string text =>
    rw [estimate_string] at more
    have escaped := le_length_flatMap_escape text.toList
    simp only [serdePrint, serdeQuote, List.length_cons, List.length_append, List.length_nil]
    omega
  | _ =>
    simp only [estimateTokensFromValue, estimateTokensFromText, serdeCodec,
      String.toList_ofList] at more
    omega

def omission (label : String) : String :=
  "[gateway-summary " ++ label ++ " omitted]"

theorem replaceIfSmaller_taken {codec : JsonCodec} {value replacement after : Json}
    (replaced : replaceIfSmaller codec value replacement = some after) :
    after = replacement ∧
      estimateTokensFromValue codec replacement < estimateTokensFromValue codec value := by
  unfold replaceIfSmaller at replaced
  split at replaced
  · cases replaced
  · next smaller =>
    cases replaced
    simp only [Bool.or_eq_true, decide_eq_true_eq, not_or, Nat.not_le] at smaller
    exact ⟨rfl, smaller.2⟩

theorem shortens_of_summary (readStream : String → List (Option Json)) {summary : String}
    (printed : (serdeQuote summary).length ≤ 4 * ((summary.toList.length + 3) / 4) + 1) :
    Shortens fun value => replaceIfSmaller (serdeCodec readStream) value (.string summary) := by
  intro value after replaced
  obtain ⟨rfl, smaller⟩ := replaceIfSmaller_taken replaced
  have longer := lt_print_of_estimate_lt smaller
  rw [serdePrint]
  omega

theorem omission_printed (toolResult : Bool) :
    (serdeQuote (omission (if toolResult then "tool_result" else "history_message"))).length ≤
      4 * (((omission (if toolResult then "tool_result" else "history_message")).toList.length
        + 3) / 4) + 1 := by
  cases toolResult <;> decide

variable {fields : List (String × Json)} {after : Json} {change : Json → Option Json}

theorem length_print_changeField (shortens : Shortens change) {key : String}
    (changed : changeField fields key change = some after) :
    (serdePrint after).length ≤ (serdePrint (.object fields)).length := by
  obtain ⟨value, found, rfl⟩ := Option.map_eq_some_iff.1 changed
  obtain ⟨old, present, replaced⟩ := Option.bind_eq_some_iff.1 found
  exact length_print_setField present (shortens old value replaced)

theorem length_print_changeResultBlock (shortens : Shortens change) (block : Json) :
    (serdePrint ((changeResultBlock change block).getD block)).length ≤
      (serdePrint block).length := by
  cases changed : changeResultBlock change block with
  | none => exact Nat.le_refl _
  | some after =>
    unfold changeResultBlock at changed
    split_ifs at changed
    obtain ⟨object, same, changed⟩ := Option.bind_eq_some_iff.1 changed
    have known : block = .object object := by
      cases block <;> simp_all [Json.asObject]
    exact known ▸ length_print_changeField shortens changed

theorem length_print_changeResultBlocks (shortens : Shortens change) {blocks : List Json}
    (nested : nestedResults fields = some blocks)
    (changed : changeResultBlocks change fields blocks = some after) :
    (serdePrint after).length ≤ (serdePrint (.object fields)).length := by
  obtain ⟨read, -⟩ := Option.filter_eq_some_iff.1 nested
  obtain ⟨content, present, array⟩ := Option.bind_eq_some_iff.1 read
  have same : content = .array blocks := by
    cases content <;> simp_all [Json.asArray]
  unfold changeResultBlocks at changed
  split_ifs at changed
  cases changed
  refine length_print_setField present ?_
  rw [same]
  exact length_print_array blocks _ (length_print_changeResultBlock shortens)

theorem changeField_object {key : String} (changed : changeField fields key change = some after) :
    ∃ object, after = .object object := by
  obtain ⟨value, -, rfl⟩ := Option.map_eq_some_iff.1 changed
  exact ⟨_, rfl⟩

theorem changeResultBlocks_object {blocks : List Json}
    (changed : changeResultBlocks change fields blocks = some after) :
    ∃ object, after = .object object := by
  unfold changeResultBlocks at changed
  split_ifs at changed
  cases changed
  exact ⟨_, rfl⟩

theorem compactEntry_print {toolResult : Bool}
    (changed : compactEntry (serdeCodec readStream) toolResult (.object fields) = some after) :
    (∃ object, after = .object object) ∧
      (serdePrint after).length ≤ (serdePrint (.object fields)).length := by
  have shortens := shortens_of_summary readStream (omission_printed toolResult)
  unfold compactEntry at changed
  simp only [Json.asObject] at changed
  split at changed
  · exact ⟨changeField_object changed, length_print_changeField shortens changed⟩
  · split at changed
    next blocks nested =>
      cases toolResult with
      | false => cases nested
      | true =>
        exact ⟨changeResultBlocks_object changed,
          length_print_changeResultBlocks shortens nested changed⟩
    next plain =>
      split at changed
      · exact ⟨changeField_object changed, length_print_changeField shortens changed⟩
      · exact ⟨changeField_object changed, length_print_changeField shortens changed⟩

theorem estimate_compactEntry {toolResult : Bool} {entry : Json}
    (changed : compactEntry (serdeCodec readStream) toolResult entry = some after) :
    estimateTokensFromValue (serdeCodec readStream) after ≤
      estimateTokensFromValue (serdeCodec readStream) entry := by
  cases entry with
  | object fields =>
    obtain ⟨⟨object, rfl⟩, shorter⟩ := compactEntry_print changed
    rw [estimate_object, estimate_object]
    omega
  | _ =>
    obtain ⟨rfl, smaller⟩ := replaceIfSmaller_taken changed
    exact Nat.le_of_lt smaller

end Compaction

def TrimStep (codec : JsonCodec) (targetTokens : Nat) (before after : List Json) : Prop :=
  targetTokens < estimateEntriesTokens codec before ∧
    ∃ (index : Nat) (entry changed : Json), before[index]? = some entry ∧
      after = before.set index changed

theorem trimPass_within {codec : JsonCodec} {change : Nat → Json → Option Json}
    {count : Nat → ContextTrimStats → ContextTrimStats} {targetTokens : Nat}
    {state : List Json × ContextTrimStats}
    (within : estimateEntriesTokens codec state.1 ≤ targetTokens) (candidates : List Nat) :
    trimPass codec change count targetTokens candidates state = state := by
  cases candidates with
  | nil => rfl
  | cons index rest => rw [trimPass, if_pos within]

theorem trimPass_steps (codec : JsonCodec) (change : Nat → Json → Option Json)
    (count : Nat → ContextTrimStats → ContextTrimStats) (targetTokens : Nat)
    (candidates : List Nat) (entries : List Json) (stats : ContextTrimStats) :
    Relation.ReflTransGen (TrimStep codec targetTokens) entries
      (trimPass codec change count targetTokens candidates (entries, stats)).1 := by
  induction candidates generalizing entries stats with
  | nil => exact .refl
  | cons index rest ih =>
    rw [trimPass]
    split
    · exact .refl
    · next exceeded =>
      split
      · next changed found =>
        obtain ⟨entry, here, -⟩ := Option.bind_eq_some_iff.1 found
        exact .head ⟨Nat.lt_of_not_le exceeded, index, entry, changed, here, rfl⟩ (ih _ _)
      · exact ih entries stats

section Totals

variable (codec : JsonCodec) (entries : List Json) (protection : ContextProtection)

def truncateCandidate (index : Nat) : Json → Option Json :=
  let toolResult : Bool := index ∈ protection.compactableToolResults
  if toolResult then truncateEntryContent codec contextToolResultTruncateChars "tool_result" true
  else truncateEntryContent codec contextMessageTruncateChars "message" false

def compactCandidate (index : Nat) : Json → Option Json :=
  compactEntry codec (index ∈ protection.compactableToolResults)

def countResult (index : Nat) (stats : ContextTrimStats) : ContextTrimStats :=
  let toolResult : Bool := index ∈ protection.compactableToolResults
  if toolResult then { stats with toolResultBlocks := saturatingIncrement stats.toolResultBlocks }
  else stats

def countTruncated (index : Nat) (stats : ContextTrimStats) : ContextTrimStats :=
  countResult protection index
    { stats with truncatedBlocks := saturatingIncrement stats.truncatedBlocks }

def countCompacted (index : Nat) (stats : ContextTrimStats) : ContextTrimStats :=
  countResult protection index
    { stats with compactedEntries := saturatingIncrement stats.compactedEntries }

theorem trimEntriesToBudget_eq (targetTokens : Nat) :
    trimEntriesToBudget codec entries targetTokens protection =
      trimPass codec (compactCandidate codec protection) (countCompacted protection) targetTokens
        (trimCandidates entries protection)
        (trimPass codec (truncateCandidate codec protection) (countTruncated protection)
          targetTokens (trimCandidates entries protection) (entries, {})) :=
  rfl

def truncatedEntries (count : Nat) : List Json :=
  changeAt (taken (truncateCandidate codec protection))
    ((trimCandidates entries protection).take count) entries

def compactedEntries (count : Nat) : List Json :=
  changeAt (taken (compactCandidate codec protection))
    ((trimCandidates entries protection).take count)
    (truncatedEntries codec entries protection (trimCandidates entries protection).length)

def truncatedTokens (count : Nat) : Nat :=
  estimateEntriesTokens codec (truncatedEntries codec entries protection count)

def compactedTokens (count : Nat) : Nat :=
  estimateEntriesTokens codec (compactedEntries codec entries protection count)

variable {codec entries protection} {targetTokens : Nat}

theorem trimEntriesToBudget_steps (codec : JsonCodec) (entries : List Json) (targetTokens : Nat)
    (protection : ContextProtection) :
    Relation.ReflTransGen (TrimStep codec targetTokens) entries
      (trimEntriesToBudget codec entries targetTokens protection).1 :=
  (trimPass_steps codec _ _ targetTokens _ entries _).trans
    (trimPass_steps codec _ _ targetTokens _ _ _)

-- Either a truncation brings the total within the target and nothing is compacted, or every
-- candidate is truncated and the first ones are compacted.
theorem trimEntriesToBudget_cases (codec : JsonCodec) (targetTokens : Nat)
    (distinct : (trimCandidates entries protection).Nodup) :
    (∃ count ≤ (trimCandidates entries protection).length,
      (trimEntriesToBudget codec entries targetTokens protection).1 =
        truncatedEntries codec entries protection count ∧
      (∀ earlier < count, targetTokens < truncatedTokens codec entries protection earlier) ∧
      truncatedTokens codec entries protection count ≤ targetTokens) ∨
    (∀ earlier ≤ (trimCandidates entries protection).length,
        targetTokens < truncatedTokens codec entries protection earlier) ∧
      ∃ count ≤ (trimCandidates entries protection).length,
        (trimEntriesToBudget codec entries targetTokens protection).1 =
          compactedEntries codec entries protection count ∧
        (∀ earlier < count, targetTokens < compactedTokens codec entries protection earlier) ∧
        (count = (trimCandidates entries protection).length ∨
          compactedTokens codec entries protection count ≤ targetTokens) := by
  obtain ⟨passed, bound, result, before, stopped⟩ := trimPass_spec codec
    (truncateCandidate codec protection) (countTruncated protection) targetTokens distinct entries
    {}
  rw [trimEntriesToBudget_eq]
  generalize trimPass codec (truncateCandidate codec protection) (countTruncated protection)
    targetTokens (trimCandidates entries protection) (entries, {}) = truncated at result ⊢
  by_cases within : truncatedTokens codec entries protection passed ≤ targetTokens
  · refine .inl ⟨passed, bound, ?_, before, within⟩
    rw [trimPass_within (result ▸ within), result]
    rfl
  · have all : passed = (trimCandidates entries protection).length := stopped.resolve_right within
    refine .inr ⟨?_, ?_⟩
    · intro earlier atMost
      rcases Nat.lt_or_eq_of_le (all ▸ atMost) with sooner | rfl
      · exact before earlier sooner
      · exact Nat.lt_of_not_le within
    · have start : truncated.1 = truncatedEntries codec entries protection
          (trimCandidates entries protection).length := by
        rw [result, all]
        rfl
      obtain ⟨entries', stats'⟩ := truncated
      cases start
      exact trimPass_spec codec (compactCandidate codec protection) _ targetTokens distinct _ stats'

variable (codec entries protection targetTokens)

def TruncationReached (position : Nat) : Prop :=
  ∀ earlier ≤ position, targetTokens < truncatedTokens codec entries protection earlier

def CompactionReached (position : Nat) : Prop :=
  TruncationReached codec entries protection targetTokens
      (trimCandidates entries protection).length ∧
    ∀ earlier ≤ position, targetTokens < compactedTokens codec entries protection earlier

def TruncationsHarmless : Prop :=
  ∀ (position index : Nat) (entry : Json),
    (trimCandidates entries protection)[position]? = some index → entries[index]? = some entry →
    TruncationReached codec entries protection targetTokens position →
    estimateTokensFromValue codec (taken (truncateCandidate codec protection) index entry) ≤
        estimateTokensFromValue codec entry ∨
      CompactionReached codec entries protection targetTokens position ∧
        estimateTokensFromValue codec (taken (compactCandidate codec protection) index
          (taken (truncateCandidate codec protection) index entry)) ≤
          estimateTokensFromValue codec entry

def TargetAttained : Prop :=
  (∃ count ≤ (trimCandidates entries protection).length,
      truncatedTokens codec entries protection count ≤ targetTokens) ∨
    compactedTokens codec entries protection (trimCandidates entries protection).length ≤
      targetTokens

end Totals

theorem sum_mapIdx_le (entries : List Json) {first second : Nat → Json → Nat}
    (less : ∀ (index : Nat) (entry : Json), entries[index]? = some entry →
      first index entry ≤ second index entry) :
    (entries.mapIdx first).sum ≤ (entries.mapIdx second).sum := by
  induction entries generalizing first second with
  | nil => exact Nat.le_refl 0
  | cons entry rest ih =>
    rw [List.mapIdx_cons, List.mapIdx_cons, List.sum_cons, List.sum_cons]
    exact Nat.add_le_add (less 0 entry rfl) (ih fun index entry => less (index + 1) entry)

theorem estimate_changeAt (codec : JsonCodec) (change : Nat → Json → Json) (indices : List Nat)
    (entries : List Json) :
    estimateEntriesTokens codec (changeAt change indices entries) =
      (entries.mapIdx fun index entry =>
        estimateTokensFromValue codec
          (if index ∈ indices then change index entry else entry)).sum := by
  rw [estimateEntriesTokens, changeAt, List.mapIdx_eq_zipIdx_map, List.mapIdx_eq_zipIdx_map,
    List.map_map]
  rfl

section Outcome

variable {readStream : String → List (Option Json)} {entries : List Json}
  {protection : ContextProtection} {targetTokens : Nat}

theorem estimate_compacted (protection : ContextProtection) (index : Nat) (entry : Json) :
    estimateTokensFromValue (serdeCodec readStream)
        (taken (compactCandidate (serdeCodec readStream) protection) index entry) ≤
      estimateTokensFromValue (serdeCodec readStream) entry := by
  unfold taken
  cases changed : compactCandidate (serdeCodec readStream) protection index entry with
  | none => exact Nat.le_refl _
  | some after => exact estimate_compactEntry changed

theorem compactedTokens_antitone (readStream : String → List (Option Json)) (entries : List Json)
    (protection : ContextProtection) {fewer more : Nat} (less : fewer ≤ more) :
    compactedTokens (serdeCodec readStream) entries protection more ≤
      compactedTokens (serdeCodec readStream) entries protection fewer := by
  rw [compactedTokens, compactedTokens, compactedEntries, compactedEntries, estimate_changeAt,
    estimate_changeAt]
  refine sum_mapIdx_le _ fun index entry _ => ?_
  by_cases known : index ∈ (trimCandidates entries protection).take fewer
  · have later : index ∈ (trimCandidates entries protection).take more :=
      (List.take_sublist_take_left less).subset known
    rw [if_pos known, if_pos later]
  · rw [if_neg known]
    split
    · exact estimate_compacted protection index entry
    · exact Nat.le_refl _

theorem mem_take_iff {candidates : List Nat} (distinct : candidates.Nodup) {position index : Nat}
    (here : candidates[position]? = some index) (count : Nat) :
    index ∈ candidates.take count ↔ position < count := by
  obtain ⟨below, rfl⟩ := List.getElem?_eq_some_iff.1 here
  constructor
  · intro known
    obtain ⟨other, within, same⟩ := List.mem_take_iff_getElem.1 known
    have alike : other = position := (List.Nodup.getElem_inj_iff distinct).1 same
    omega
  · intro sooner
    exact List.mem_take_iff_getElem.2 ⟨position, by omega, rfl⟩

variable (distinct : (trimCandidates entries protection).Nodup)
include distinct

theorem trimmed_attains :
    estimateEntriesTokens (serdeCodec readStream)
        (trimEntriesToBudget (serdeCodec readStream) entries targetTokens protection).1 ≤
          targetTokens ↔
      TargetAttained (serdeCodec readStream) entries protection targetTokens := by
  rcases trimEntriesToBudget_cases (serdeCodec readStream) targetTokens distinct with
    ⟨count, bound, result, -, within⟩ | ⟨exceeded, count, bound, result, -, stopped⟩
  · rw [result]
    exact ⟨fun _ => .inl ⟨count, bound, within⟩, fun _ => within⟩
  · rw [result]
    have least := compactedTokens_antitone readStream entries protection bound
    constructor
    · intro within
      exact .inr (least.trans within)
    · rintro (⟨earlier, atMost, within⟩ | within)
      · exact absurd within (Nat.not_le.2 (exceeded earlier atMost))
      · rcases stopped with rfl | stopped
        · exact within
        · exact stopped

theorem trimmed_no_longer :
    (∀ (index : Nat) before after, entries[index]? = some before →
      (trimEntriesToBudget (serdeCodec readStream) entries targetTokens protection).1[index]? =
        some after →
      estimateTokensFromValue (serdeCodec readStream) after ≤
        estimateTokensFromValue (serdeCodec readStream) before) ↔
    TruncationsHarmless (serdeCodec readStream) entries protection targetTokens := by
  rcases trimEntriesToBudget_cases (serdeCodec readStream) targetTokens distinct with
    ⟨count, bound, result, before, within⟩ | ⟨exceeded, count, bound, result, before, stopped⟩
  · rw [result]
    have missed (position : Nat) : ¬ CompactionReached (serdeCodec readStream) entries protection
        targetTokens position := fun reached => Nat.not_le.2 (reached.1 count bound) within
    constructor
    · intro shorter position index entry here found reached
      have sooner : position < count := Nat.lt_of_not_le fun later =>
        Nat.not_le.2 (reached count later) within
      refine .inl (shorter index entry _ found ?_)
      rw [truncatedEntries, getElem?_changeAt, found, Option.map_some,
        if_pos ((mem_take_iff distinct here count).2 sooner)]
    · intro harmless index entry after found now
      rw [truncatedEntries, getElem?_changeAt, found, Option.map_some] at now
      cases now
      split
      next known =>
        obtain ⟨position, here⟩ := List.mem_iff_getElem?.1 (List.mem_of_mem_take known)
        have sooner := (mem_take_iff distinct here count).1 known
        have reached : TruncationReached (serdeCodec readStream) entries protection targetTokens
            position := fun earlier atMost => before earlier (Nat.lt_of_le_of_lt atMost sooner)
        exact (harmless position index entry here found reached).resolve_right fun other =>
          missed position other.1
      next => exact Nat.le_refl _
  · rw [result]
    have reached_iff {position : Nat}
        (inside : position < (trimCandidates entries protection).length) :
        CompactionReached (serdeCodec readStream) entries protection targetTokens position ↔
          position < count := by
      constructor
      · intro reached
        by_contra later
        have early := reached.2 count (Nat.le_of_not_lt later)
        rcases stopped with rfl | stopped
        · exact later inside
        · omega
      · exact fun sooner => ⟨exceeded, fun earlier atMost => before earlier (by omega)⟩
    have final {position index : Nat} {entry : Json}
        (here : (trimCandidates entries protection)[position]? = some index)
        (found : entries[index]? = some entry) :
        (compactedEntries (serdeCodec readStream) entries protection count)[index]? = some
          (if position < count then taken (compactCandidate (serdeCodec readStream) protection)
              index (taken (truncateCandidate (serdeCodec readStream) protection) index entry)
            else taken (truncateCandidate (serdeCodec readStream) protection) index entry) := by
      have inside := (List.getElem?_eq_some_iff.1 here).1
      rw [compactedEntries, getElem?_changeAt, truncatedEntries, getElem?_changeAt, found,
        Option.map_some, Option.map_some]
      simp only [mem_take_iff distinct here, inside, if_true]
    constructor
    · intro shorter position index entry here found reached
      have inside := (List.getElem?_eq_some_iff.1 here).1
      have now := shorter index entry _ found (final here found)
      by_cases sooner : position < count
      · rw [if_pos sooner] at now
        exact .inr ⟨(reached_iff inside).2 sooner, now⟩
      · rw [if_neg sooner] at now
        exact .inl now
    · intro harmless index entry after found now
      by_cases known : index ∈ trimCandidates entries protection
      · obtain ⟨position, here⟩ := List.mem_iff_getElem?.1 known
        have inside := (List.getElem?_eq_some_iff.1 here).1
        rw [final here found] at now
        cases now
        have outcome := harmless position index entry here found fun earlier atMost =>
          exceeded earlier (by omega)
        split
        next sooner =>
          rcases outcome with shorter | ⟨-, shorter⟩
          · exact (estimate_compacted protection index _).trans shorter
          · exact shorter
        next later =>
          exact outcome.resolve_right fun other => later ((reached_iff inside).1 other.1)
      · have outside (length : Nat) : index ∉ (trimCandidates entries protection).take length :=
          fun member => known (List.mem_of_mem_take member)
        rw [compactedEntries, getElem?_changeAt, truncatedEntries, getElem?_changeAt, found,
          Option.map_some, Option.map_some, if_neg (outside _), if_neg (outside _)] at now
        cases now
        exact Nat.le_refl _

end Outcome

theorem protectResults_distinct (completed : Nat → ToolEntryReferences → Bool)
    (results : List ToolEntryReferences) (start : Nat) (protection : ContextProtection)
    (below : ∀ index ∈ protection.compactableToolResults, index < start)
    (distinct : protection.compactableToolResults.Nodup) :
    ((results.zipIdx start).foldl (protectResult completed)
      protection).compactableToolResults.Nodup := by
  induction results generalizing start protection with
  | nil => exact distinct
  | cons reference rest ih =>
    rw [List.zipIdx_cons, List.foldl_cons]
    have compactable : (protectResult completed protection
          (reference, start)).compactableToolResults = protection.compactableToolResults ∨
        (protectResult completed protection (reference, start)).compactableToolResults =
          protection.compactableToolResults ++ [start] := by
      unfold protectResult
      split_ifs
      · exact .inl rfl
      · exact .inr rfl
      · exact .inl rfl
    rcases compactable with same | more
    · refine ih (start + 1) _ (fun index known => ?_) (same ▸ distinct)
      exact Nat.lt_succ_of_lt (below index (same ▸ known))
    · refine ih (start + 1) _ (fun index known => ?_) (more ▸ ?_)
      · rw [more] at known
        rcases List.mem_append.1 known with old | new
        · exact Nat.lt_succ_of_lt (below index old)
        · rw [List.mem_singleton.1 new]
          exact Nat.lt_succ_self start
      · refine List.nodup_append.2 ⟨distinct, List.nodup_singleton start, ?_⟩
        intro index known other new same
        have inside := below index known
        rw [same, List.mem_singleton.1 new] at inside
        exact Nat.lt_irrefl start inside

theorem candidates_distinct (entries : List Json) :
    (trimCandidates entries (analyzeContextEntries entries)).Nodup := by
  have compactable : (analyzeContextEntries entries).compactableToolResults.Nodup :=
    protectResults_distinct _ _ 0 (initialProtection entries) (by simp [initialProtection])
      List.nodup_nil
  have indices : (entries.zipIdx.map (·.2)).Nodup := by
    rw [List.zipIdx_map_snd]
    exact List.nodup_range'
  refine List.nodup_append.2 ⟨(List.perm_insertionSort _ _).nodup_iff.2 compactable,
    (List.filter_sublist.map _).nodup indices, ?_⟩
  rintro index known other plain rfl
  rw [List.mem_insertionSort] at known
  simp only [List.mem_map, List.mem_filter, Bool.and_eq_true, decide_eq_true_eq] at plain
  obtain ⟨entry, ⟨-, ⟨-, free⟩, -⟩, rfl⟩ := plain
  exact free known

end ChatGateway
