import ChatGateway.Gateway.ContextTrim

set_option autoImplicit false

/-!
# What survives context trimming

The entries an upstream needs unchanged are left alone, and no entry loses what pairs a tool call
with its result.
-/

namespace ChatGateway

def CarriesReasoning (entry : Json) : Prop :=
  entry.str "type" ∈ [some "reasoning", some "thinking", some "redacted_thinking"] ∨
    (entry.get "reasoning_content").isSome ∨
    ∃ block ∈ contentBlocks entry,
      block.str "type" ∈ [some "reasoning", some "thinking", some "redacted_thinking"]

def CarriesToolCall (entry : Json) : Prop :=
  entry.str "type" = some "function_call" ∨
    (∃ call calls, entry.get "tool_calls" = some (.array (call :: calls))) ∨
    ∃ block ∈ contentBlocks entry, block.str "type" = some "tool_use"

def toolCallIds (entry : Json) : List String :=
  (if entry.str "type" = some "function_call" then (entry.str "call_id").toList else []) ++
    (((entry.get "tool_calls").bind Json.asArray).getD []).filterMap (·.str "id") ++
    ((contentBlocks entry).filter fun block => block.str "type" = some "tool_use").filterMap
      (·.str "id")

structure ToolResult where
  id : Option Json
  payload : Option Json

def toolResults (entry : Json) : List ToolResult :=
  (if entry.str "type" = some "function_call_output" then
      [⟨entry.get "call_id", entry.get "output"⟩] else []) ++
    (if entry.str "role" = some "tool" then
      [⟨entry.get "tool_call_id", entry.get "content"⟩] else []) ++
    (if entry.str "type" = some "tool_result" then
      [⟨entry.get "tool_use_id", entry.get "content"⟩] else []) ++
    ((contentBlocks entry).filter isResultBlock).map fun block =>
      ⟨block.get "tool_use_id", block.get "content"⟩

def toolResultIds (entry : Json) : List String :=
  (toolResults entry).filterMap fun result => result.id.bind Json.asStr

def ToolResult.WellFormed (result : ToolResult) : Prop :=
  (∃ id, result.id = some (.string id) ∧ isBlank id = false) ∧
    ∃ payload, result.payload = some payload ∧ payload ≠ .null

inductive MustSurvive (entries : List Json) (index : Nat) (entry : Json) : Prop where
  | instruction (role : entry.str "role" = some "system" ∨ entry.str "role" = some "developer")
  | reasoning (carries : CarriesReasoning entry)
  | toolCall (carries : CarriesToolCall entry)
  | recent (last : entries.length ≤ index + 8)
  | currentInput (role : entry.str "role" = some "user")
      (last : ∀ later other, index < later → entries[later]? = some other →
        other.str "role" ≠ some "user")
  | malformedResult (result : ToolResult) (member : result ∈ toolResults entry)
      (malformed : ¬ result.WellFormed)
  | unpairedResult (id : String) (member : id ∈ toolResultIds entry)
      (uncalled : id ∉ (entries.take index).flatMap toolCallIds)
  | repeatedResult (id : String) (member : id ∈ toolResultIds entry)
      (repeated : 1 < (entries.flatMap toolCallIds).count id ∨
        1 < (entries.flatMap toolResultIds).count id)

def sameFieldsExcept (changed : List String) (before after : Json) : Prop :=
  ∃ fields newFields, before = .object fields ∧ after = .object newFields ∧
    newFields.map (·.1) = fields.map (·.1) ∧
    ∀ key, key ∉ changed → Json.field newFields key = Json.field fields key

def BlockKept (before after : Json) : Prop :=
  after = before ∨
    (isResultBlock before = true ∧ sameFieldsExcept ["content"] before after)

/-- An entry is as it was, or has another content or output, and where the content holds tool
results, these are all still there. -/
def EntryKept (before after : Json) : Prop :=
  after = before ∨
    (sameFieldsExcept ["content", "output"] before after ∧
      ∀ blocks, before.get "content" = some (.array blocks) → (∃ block ∈ blocks, isResultBlock block) →
        ∃ newBlocks, after.get "content" = some (.array newBlocks) ∧
          List.Forall₂ BlockKept blocks newBlocks)

namespace ToolEntryReferences

theorem recordId_present (references : ToolEntryReferences) (id : Option Json) :
    (references.recordId id).present = true := by
  unfold recordId
  split
  · split <;> rfl
  · rfl

theorem recordId_ids (references : ToolEntryReferences) (id : Option Json) :
    (references.recordId id).ids =
      references.ids ++ (id.bind Json.asStr).toList.filter fun id => !isBlank id := by
  unfold recordId
  split
  · next found =>
    rw [found]
    split <;> simp_all
  · next absent => simp [absent]

theorem recordId_malformed {references : ToolEntryReferences} {id : Option Json}
    (fine : (references.recordId id).malformed = false) :
    references.malformed = false ∧ ∃ text, id = some (.string text) ∧ isBlank text = false := by
  unfold recordId at fine
  split at fine
  · next text found =>
    split at fine
    · cases fine
    · next solid =>
      refine ⟨fine, text, ?_, by simpa using solid⟩
      obtain ⟨value, rfl, read⟩ := Option.bind_eq_some_iff.1 found
      cases value <;> simp_all [Json.asStr]
  · cases fine

def note (references : ToolEntryReferences) (reference : Option Json × Bool) : ToolEntryReferences :=
  (references.recordId reference.1).require reference.2

theorem foldl_note_present (parts : List (Option Json × Bool)) (references : ToolEntryReferences) :
    (parts.foldl note references).present = (references.present || !parts.isEmpty) := by
  induction parts generalizing references with
  | nil => simp
  | cons part rest ih =>
    rw [List.foldl_cons, ih]
    simp [note, require, recordId_present]

theorem foldl_note_ids (parts : List (Option Json × Bool)) (references : ToolEntryReferences) :
    (parts.foldl note references).ids = references.ids ++
      (parts.filterMap fun part => part.1.bind Json.asStr).filter fun id => !isBlank id := by
  induction parts generalizing references with
  | nil => simp
  | cons part rest ih =>
    rw [List.foldl_cons, ih]
    have first : (note references part).ids = references.ids ++
        (part.1.bind Json.asStr).toList.filter fun id => !isBlank id :=
      recordId_ids references part.1
    rw [first, List.filterMap_cons]
    cases part.1.bind Json.asStr with
    | none => simp
    | some text => cases blank : isBlank text <;> simp [blank]

theorem foldl_note_malformed {parts : List (Option Json × Bool)} {references : ToolEntryReferences}
    (fine : (parts.foldl note references).malformed = false) :
    references.malformed = false ∧ ∀ part ∈ parts, part.2 = true ∧
      ∃ text, part.1 = some (.string text) ∧ isBlank text = false := by
  induction parts generalizing references with
  | nil => exact ⟨fine, by simp⟩
  | cons part rest ih =>
    obtain ⟨noted, later⟩ := ih fine
    have given : (references.recordId part.1).malformed = false ∧ part.2 = true := by
      simpa [note, require] using noted
    obtain ⟨before, named⟩ := recordId_malformed given.1
    refine ⟨before, ?_⟩
    intro other member
    rcases List.mem_cons.1 member with rfl | member
    · exact ⟨given.2, named⟩
    · exact later other member

theorem foldl_blocks (part : Json → Option Json × Bool) (type : String) (blocks : List Json)
    (references : ToolEntryReferences) :
    blocks.foldl (fun references block =>
        if block.str "type" = some type then references.note (part block) else references)
      references =
      ((blocks.filter fun block => block.str "type" = some type).map part).foldl note references := by
  induction blocks generalizing references with
  | nil => rfl
  | cons block rest ih =>
    rw [List.foldl_cons, ih]
    by_cases matches_ : block.str "type" = some type <;> simp [matches_]

end ToolEntryReferences

open ToolEntryReferences

def resultPart (result : ToolResult) : Option Json × Bool :=
  (result.id, payloadGiven result.payload)

theorem toolResultReferences_eq (entry : Json) :
    toolResultReferences entry = ((toolResults entry).map resultPart).foldl note {} := by
  have blocks := foldl_blocks
    (fun block => (block.get "tool_use_id", payloadGiven (block.get "content"))) "tool_result"
    (contentBlocks entry)
  unfold toolResultReferences
  simp only [note] at blocks
  rw [blocks, toolResults, List.map_append, List.foldl_append, List.map_map]
  congr 1
  by_cases output : entryType entry = some "function_call_output" <;>
  by_cases message : entryRole entry = some "tool" <;>
  by_cases result : entryType entry = some "tool_result" <;>
    simp_all [entryType, entryRole, note, resultPart]

theorem toolResultReferences_ids (entry : Json) :
    (toolResultReferences entry).ids = (toolResultIds entry).filter fun id => !isBlank id := by
  rw [toolResultReferences_eq, foldl_note_ids, List.filterMap_map]
  rfl

theorem toolResultReferences_present (entry : Json) :
    (toolResultReferences entry).present = !(toolResults entry).isEmpty := by
  rw [toolResultReferences_eq, foldl_note_present]
  simp

theorem toolResults_wellFormed {entry : Json}
    (fine : (toolResultReferences entry).malformed = false) {result : ToolResult}
    (member : result ∈ toolResults entry) : result.WellFormed := by
  rw [toolResultReferences_eq] at fine
  obtain ⟨given, named⟩ := (foldl_note_malformed fine).2 (resultPart result)
    (List.mem_map_of_mem member)
  refine ⟨named, ?_⟩
  change payloadGiven result.payload = true at given
  cases found : result.payload with
  | none => simp [payloadGiven, found] at given
  | some payload =>
    refine ⟨payload, rfl, ?_⟩
    rintro rfl
    simp [payloadGiven, found, Json.isNull] at given

def chatCallParts (calls : Option Json) : List (Option Json × Bool) :=
  ((calls.bind Json.asArray).getD []).map fun call =>
    (call.get "id", stringPayloadGiven ((call.get "function").bind (·.get "arguments")))

def useParts (entry : Json) : List (Option Json × Bool) :=
  ((contentBlocks entry).filter fun block => block.str "type" = some "tool_use").map fun block =>
    (block.get "id", objectPayloadGiven (block.get "input"))

theorem chatCallReferences_ids (calls : Option Json) (references : ToolEntryReferences) :
    (chatCallReferences calls references).ids =
      ((chatCallParts calls).foldl note references).ids := by
  unfold chatCallReferences
  split
  · rfl
  · rfl
  · rw [chatCallParts, Option.bind_some, Json.asArray, Option.getD_some, List.foldl_map]
    rfl
  · next value neither nor =>
    cases value <;> simp_all [chatCallParts, Json.asArray]

theorem chatCallReferences_present {calls : Option Json} {references : ToolEntryReferences}
    (called : references.present = true ∨ chatCallParts calls ≠ []) :
    (chatCallReferences calls references).present = true := by
  unfold chatCallReferences
  split
  · simpa [chatCallParts] using called
  · simpa [chatCallParts, Json.asArray] using called
  · next items =>
    have same := foldl_note_present (chatCallParts (some (.array items))) references
    rw [chatCallParts, Option.bind_some, Json.asArray, Option.getD_some, List.foldl_map] at same
    refine same.trans ?_
    rcases called with already | some
    · simp [already]
    · cases items <;> simp_all [chatCallParts, Json.asArray]
  · rfl

theorem toolCallReferences_eq (entry : Json) :
    toolCallReferences entry = (useParts entry).foldl note
      (chatCallReferences (entry.get "tool_calls")
        ((if entry.str "type" = some "function_call" then
          [(entry.get "call_id", stringPayloadGiven (entry.get "arguments"))] else []).foldl note
            {})) := by
  have blocks := foldl_blocks
    (fun block => (block.get "id", objectPayloadGiven (block.get "input"))) "tool_use"
    (contentBlocks entry)
  simp only [note] at blocks
  unfold toolCallReferences
  rw [blocks]
  congr 2
  by_cases item : entryType entry = some "function_call" <;> simp_all [entryType, note]

theorem toolCallReferences_ids (entry : Json) :
    (toolCallReferences entry).ids = (toolCallIds entry).filter fun id => !isBlank id := by
  rw [toolCallReferences_eq, foldl_note_ids, chatCallReferences_ids, foldl_note_ids,
    foldl_note_ids, toolCallIds, List.filter_append, List.filter_append]
  congr 1
  · congr 1
    · by_cases item : entry.str "type" = some "function_call"
      · cases named : entry.str "call_id" <;> simp_all [Json.str]
      · simp [item]
    · simp only [chatCallParts, List.filterMap_map]
      rfl
  · simp only [useParts, List.filterMap_map]
    rfl

theorem toolCallReferences_present {entry : Json} (carries : CarriesToolCall entry) :
    (toolCallReferences entry).present = true := by
  rw [toolCallReferences_eq, foldl_note_present, Bool.or_eq_true]
  rcases carries with item | ⟨call, calls, called⟩ | ⟨block, member, used⟩
  · left
    apply chatCallReferences_present
    simp [item, note, require, recordId_present]
  · left
    apply chatCallReferences_present
    simp [called, chatCallParts, Json.asArray]
  · right
    have found : block ∈ (contentBlocks entry).filter fun block =>
        block.str "type" = some "tool_use" := by
      simp [member, used]
    cases parts : useParts entry with
    | nil =>
      rw [useParts, List.map_eq_nil_iff] at parts
      rw [parts] at found
      cases found
    | cons => rfl

theorem entryContainsReasoning_iff (entry : Json) :
    entryContainsReasoning entry = true ↔ CarriesReasoning entry := by
  simp only [entryContainsReasoning, CarriesReasoning, isReasoningType, Bool.or_eq_true,
    decide_eq_true_eq, List.any_eq_true, List.mem_cons, List.not_mem_nil, or_false, or_assoc]
  rfl

theorem mem_indicesOf {references : List ToolEntryReferences} {id : String} {index : Nat}
    (member : index ∈ indicesOf (recordedIds references) id) :
    ∃ reference, references[index]? = some reference ∧ id ∈ reference.ids := by
  simp only [indicesOf, recordedIds, List.mem_map, List.mem_filter, List.mem_flatMap,
    decide_eq_true_eq] at member
  obtain ⟨⟨known, place⟩, ⟨⟨⟨reference, position⟩, entry, ⟨other, listed, same⟩⟩, rfl⟩, rfl⟩ :=
    member
  cases same
  exact ⟨reference, List.mem_zipIdx_iff_getElem?.1 entry, listed⟩

theorem length_indicesOf (references : List ToolEntryReferences) (id : String) :
    (indicesOf (recordedIds references) id).length = (references.flatMap (·.ids)).count id := by
  have names : (recordedIds references).map (·.1) = references.flatMap (·.ids) := by
    rw [recordedIds, List.map_flatMap]
    simp only [List.map_map, Function.comp_def, List.map_id']
    rw [← List.flatMap_map, List.zipIdx_map_fst]
  rw [← names, indicesOf, List.length_map, List.count, List.countP_map, List.countP_eq_length_filter]
  congr 2

theorem completesCall_spec {references : List ToolEntryReferences}
    {results : List ToolEntryReferences} {index : Nat} {id : String}
    (completes : completesCall references (recordedIds references) (recordedIds results) index id =
      true) :
    (references.flatMap (·.ids)).count id = 1 ∧ (results.flatMap (·.ids)).count id = 1 ∧
      ∃ call reference, call < index ∧ references[call]? = some reference ∧ id ∈ reference.ids := by
  unfold completesCall at completes
  split at completes
  · next call result called resulted =>
    rw [← length_indicesOf, ← length_indicesOf, called, resulted]
    simp only [Bool.and_eq_true, decide_eq_true_eq] at completes
    obtain ⟨reference, found, listed⟩ := mem_indicesOf (called ▸ List.mem_singleton_self call)
    exact ⟨rfl, rfl, call, reference, completes.1, found, listed⟩
  · cases completes

/-- What the loop over the results leaves: nothing is unguarded again, every result is guarded or
compactable but not both, and what is compactable completes its calls. -/
structure ResultsJudged (completed : Nat → ToolEntryReferences → Bool)
    (results : List ToolEntryReferences) (start : Nat) (before after : ContextProtection) :
    Prop where
  guarded : ∀ index ∈ before.guarded, index ∈ after.guarded
  compactable : ∀ index ∈ before.compactableToolResults, index ∈ after.compactableToolResults
  apart : ∀ index ∈ after.compactableToolResults, index ∉ after.guarded
  origin : ∀ index ∈ after.compactableToolResults, index ∈ before.compactableToolResults ∨
    ∃ position reference, index = start + position ∧ results[position]? = some reference ∧
      reference.present = true ∧ completed index reference = true
  judged : ∀ position reference, results[position]? = some reference → reference.present = true →
    start + position ∈ after.guarded ∨ start + position ∈ after.compactableToolResults

theorem protectResult_judged (completed : Nat → ToolEntryReferences → Bool)
    {protection : ContextProtection} {start : Nat}
    (apart : ∀ index ∈ protection.compactableToolResults,
      index < start ∧ index ∉ protection.guarded) (reference : ToolEntryReferences) :
    ResultsJudged completed [reference] start protection
      (protectResult completed protection (reference, start)) := by
  unfold protectResult
  split_ifs with absent chosen
  · refine ⟨fun _ known => known, fun _ known => known, fun index known => (apart index known).2,
      fun index known => .inl known, ?_⟩
    intro position other found present
    cases position with
    | zero =>
      cases found
      simp [present] at absent
    | succ position => simp at found
  · simp only [Bool.and_eq_true, decide_eq_true_eq] at chosen
    refine ⟨fun _ known => known, fun _ known => List.mem_append_left _ known, ?_, ?_, ?_⟩
    · intro index known
      rcases List.mem_append.1 known with old | new
      · exact (apart index old).2
      · rw [List.mem_singleton.1 new]
        exact chosen.2
    · intro index known
      rcases List.mem_append.1 known with old | new
      · exact .inl old
      · rw [List.mem_singleton.1 new]
        exact .inr ⟨0, reference, rfl, rfl, by simpa using absent, chosen.1⟩
    · intro position other found present
      cases position with
      | zero => exact .inr (by simp)
      | succ position => simp at found
  · refine ⟨fun _ known => List.mem_append_left _ known, fun _ known => known, ?_,
      fun index known => .inl known, ?_⟩
    · intro index known
      obtain ⟨below, free⟩ := apart index known
      simp only [List.mem_append, List.mem_singleton, not_or]
      exact ⟨free, Nat.ne_of_lt below⟩
    · intro position other found present
      cases position with
      | zero => exact .inl (by simp)
      | succ position => simp at found

theorem protectResults_judged (completed : Nat → ToolEntryReferences → Bool)
    (results : List ToolEntryReferences) (start : Nat) (protection : ContextProtection)
    (apart : ∀ index ∈ protection.compactableToolResults,
      index < start ∧ index ∉ protection.guarded) :
    ResultsJudged completed results start protection
      ((results.zipIdx start).foldl (protectResult completed) protection) := by
  induction results generalizing start protection with
  | nil =>
    exact ⟨fun _ known => known, fun _ known => known, fun index known => (apart index known).2,
      fun index known => .inl known, by simp⟩
  | cons reference rest ih =>
    rw [List.zipIdx_cons, List.foldl_cons]
    have first := protectResult_judged completed apart reference
    have nextApart : ∀ index ∈ (protectResult completed protection
        (reference, start)).compactableToolResults, index < start + 1 ∧
          index ∉ (protectResult completed protection (reference, start)).guarded := by
      intro index known
      refine ⟨?_, first.apart index known⟩
      rcases first.origin index known with old | ⟨position, other, rfl, found, -⟩
      · exact Nat.lt_succ_of_lt (apart index old).1
      · cases position with
        | zero => exact Nat.lt_succ_self start
        | succ position => simp at found
    have rest := ih (start + 1) _ nextApart
    refine ⟨fun index known => rest.guarded index (first.guarded index known),
      fun index known => rest.compactable index (first.compactable index known), rest.apart, ?_, ?_⟩
    · intro index known
      rcases rest.origin index known with here | ⟨position, other, rfl, found, done⟩
      · rcases first.origin index here with old | ⟨position, other, rfl, found, done⟩
        · exact .inl old
        · cases position with
          | zero => exact .inr ⟨0, other, rfl, found, done⟩
          | succ position => simp at found
      · exact .inr ⟨position + 1, other, by omega, found, done⟩
    · intro position other found present
      cases position with
      | zero =>
        exact (first.judged 0 other found present).imp (rest.guarded start)
          (rest.compactable start)
      | succ position =>
        have later := rest.judged position other found present
        rwa [Nat.add_right_comm] at later

section Analysis

variable {entries : List Json} {index : Nat} {entry : Json}

-- A compactable result is well formed and completes a call before it that no other does.
theorem not_mustSurvive_result
    (completed : uniquelyCompleted (entries.map toolCallReferences)
      (recordedIds (entries.map toolCallReferences))
      (recordedIds (entries.map toolResultReferences)) index (toolResultReferences entry) = true) :
    (∀ result ∈ toolResults entry, result.WellFormed) ∧
      ∀ id ∈ toolResultIds entry, id ∈ (entries.take index).flatMap toolCallIds ∧
        (entries.flatMap toolCallIds).count id = 1 ∧
        (entries.flatMap toolResultIds).count id = 1 := by
  simp only [uniquelyCompleted, Bool.and_eq_true, Bool.not_eq_true', List.all_eq_true] at completed
  obtain ⟨fine, completes⟩ := completed
  refine ⟨fun result member => toolResults_wellFormed fine member, ?_⟩
  intro id listed
  have solid : isBlank id = false := by
    obtain ⟨result, member, named⟩ := List.mem_filterMap.1 listed
    obtain ⟨⟨known, same, solid⟩, -⟩ := toolResults_wellFormed fine member
    rw [same] at named
    cases named
    exact solid
  have member : id ∈ (toolResultReferences entry).ids := by
    rw [toolResultReferences_ids]
    simp [listed, solid]
  obtain ⟨once, only, call, reference, below, called, named⟩ :=
    completesCall_spec (completes id member)
  -- An id that is not blank is recorded wherever it occurs.
  have counts (parts : Json → ToolEntryReferences) (ids : Json → List String)
      (same : ∀ entry, (parts entry).ids = (ids entry).filter fun id => !isBlank id) :
      ((entries.map parts).flatMap (·.ids)).count id = (entries.flatMap ids).count id := by
    rw [List.flatMap_map, List.count_flatMap, List.count_flatMap]
    congr 1
    refine List.map_congr_left fun entry _ => ?_
    simp only [Function.comp, same]
    exact List.count_filter (by simp [solid])
  rw [counts toolCallReferences toolCallIds toolCallReferences_ids] at once
  rw [counts toolResultReferences toolResultIds toolResultReferences_ids] at only
  refine ⟨?_, once, only⟩
  rw [List.getElem?_map, Option.map_eq_some_iff] at called
  obtain ⟨caller, at_, rfl⟩ := called
  refine List.mem_flatMap.2 ⟨caller, ?_, ?_⟩
  · refine List.mem_of_getElem? (i := call) ?_
    rw [List.getElem?_take_of_lt below]
    exact at_
  · rw [toolCallReferences_ids] at named
    exact (List.mem_filter.1 named).1

def initialProtection (entries : List Json) : ContextProtection where
  guarded :=
    List.range' (entries.length - contextKeepRecentItems)
        (entries.length - (entries.length - contextKeepRecentItems)) ++
      (entries.zipIdx.filter fun entry =>
        entryIsSystem entry.1 || entryContainsReasoning entry.1 ||
          (toolCallReferences entry.1).present).map (·.2) ++
      (lastUserEntry entries).toList

def judgedProtection (entries : List Json) : ContextProtection :=
  (entries.map toolResultReferences).zipIdx.foldl
    (protectResult (uniquelyCompleted (entries.map toolCallReferences)
      (recordedIds (entries.map toolCallReferences))
      (recordedIds (entries.map toolResultReferences)))) (initialProtection entries)

theorem judgedProtection_judged (entries : List Json) :
    ResultsJudged (uniquelyCompleted (entries.map toolCallReferences)
      (recordedIds (entries.map toolCallReferences))
      (recordedIds (entries.map toolResultReferences))) (entries.map toolResultReferences) 0
      (initialProtection entries) (judgedProtection entries) :=
  protectResults_judged _ _ 0 _ (by simp [initialProtection])

theorem mem_analyzeContextEntries_guarded :
    index ∈ (analyzeContextEntries entries).guarded ↔
      index ∈ (judgedProtection entries).guarded ∨ ∃ entry, entries[index]? = some entry ∧
        index ∉ (judgedProtection entries).compactableToolResults ∧
        entryIsPlainConversation entry = false := by
  change index ∈ (judgedProtection entries).guarded ++ _ ↔ _
  rw [List.mem_append]
  refine or_congr_right ?_
  simp only [List.mem_map, List.mem_filter, Bool.and_eq_true, decide_eq_true_eq,
    Bool.not_eq_true', Prod.exists, List.mem_zipIdx_iff_getElem?]
  constructor
  · rintro ⟨entry, place, ⟨found, free, odd⟩, rfl⟩
    exact ⟨entry, found, free, odd⟩
  · rintro ⟨entry, found, free, odd⟩
    exact ⟨entry, index, ⟨found, free, odd⟩, rfl⟩

theorem compactable_not_guarded
    (compactable : index ∈ (analyzeContextEntries entries).compactableToolResults) :
    index ∉ (analyzeContextEntries entries).guarded := by
  rw [mem_analyzeContextEntries_guarded]
  rintro (guarded | ⟨entry, -, free, -⟩)
  · exact (judgedProtection_judged entries).apart index compactable guarded
  · exact free compactable

theorem compactable_entry
    (compactable : index ∈ (analyzeContextEntries entries).compactableToolResults) :
    ∃ entry, entries[index]? = some entry ∧ (toolResultReferences entry).present = true ∧
      uniquelyCompleted (entries.map toolCallReferences)
        (recordedIds (entries.map toolCallReferences))
        (recordedIds (entries.map toolResultReferences)) index (toolResultReferences entry) =
        true := by
  rcases (judgedProtection_judged entries).origin index compactable with
    none | ⟨position, reference, rfl, found, present, completed⟩
  · simp [initialProtection] at none
  · rw [List.getElem?_map, Option.map_eq_some_iff] at found
    obtain ⟨entry, found, rfl⟩ := found
    rw [Nat.zero_add] at completed ⊢
    exact ⟨entry, found, present, completed⟩

theorem guarded_of_marked (found : entries[index]? = some entry)
    (marked : entryIsSystem entry = true ∨ entryContainsReasoning entry = true ∨
      (toolCallReferences entry).present = true) :
    index ∈ (initialProtection entries).guarded := by
  have listed : index ∈ (entries.zipIdx.filter fun entry =>
      entryIsSystem entry.1 || entryContainsReasoning entry.1 ||
        (toolCallReferences entry.1).present).map (·.2) := by
    refine List.mem_map.2 ⟨(entry, index), List.mem_filter.2 ⟨?_, ?_⟩, rfl⟩
    · exact List.mem_zipIdx_iff_getElem?.2 found
    · simpa [or_assoc] using marked
  simp only [initialProtection, List.mem_append]
  exact .inl (.inr listed)

theorem lastUserEntry_eq (found : entries[index]? = some entry)
    (role : entry.str "role" = some "user")
    (last : ∀ later other, index < later → entries[later]? = some other →
      other.str "role" ≠ some "user") : lastUserEntry entries = some index := by
  obtain ⟨below, here⟩ := List.getElem?_eq_some_iff.1 found
  have split : entries = entries.take index ++ entry :: entries.drop (index + 1) := by
    rw [← here, List.getElem_cons_drop, List.take_append_drop]
  have count : (entries.take index).length = index := by
    rw [List.length_take]
    omega
  have quiet : ((entries.drop (index + 1)).zipIdx (index + 1)).filter
      (fun entry => entryRole entry.1 = some "user") = [] := by
    rw [List.filter_eq_nil_iff]
    rintro ⟨other, later⟩ member
    obtain ⟨above, at_⟩ := List.mem_zipIdx_iff_le_and_getElem?_sub.1 member
    rw [List.getElem?_drop, show index + 1 + (later - (index + 1)) = later by omega] at at_
    exact fun clash => last later other (by omega) at_ (of_decide_eq_true clash)
  rw [lastUserEntry, split, List.zipIdx_append, count, Nat.zero_add, List.zipIdx_cons,
    List.filter_append, List.filter_cons, quiet]
  simp [entryRole, role]

theorem guarded_of_mustSurvive (found : entries[index]? = some entry)
    (must : MustSurvive entries index entry) : index ∈ (analyzeContextEntries entries).guarded := by
  have judged := judgedProtection_judged entries
  rw [mem_analyzeContextEntries_guarded]
  -- A result that is not guarded is compactable, and then nothing is wrong with it.
  have result (wrong : (toolResultReferences entry).present = true ∧
      uniquelyCompleted (entries.map toolCallReferences)
        (recordedIds (entries.map toolCallReferences))
        (recordedIds (entries.map toolResultReferences)) index (toolResultReferences entry) ≠
        true) : index ∈ (judgedProtection entries).guarded := by
    have verdict := judged.judged index (toolResultReferences entry)
      (by rw [List.getElem?_map, found]; rfl) wrong.1
    rw [Nat.zero_add] at verdict
    rcases verdict with guarded | compactable
    · exact guarded
    · obtain ⟨other, same, -, completed⟩ := compactable_entry compactable
      rw [found] at same
      cases same
      exact absurd completed wrong.2
  left
  cases must with
  | instruction role =>
    refine judged.guarded index (guarded_of_marked found (.inl ?_))
    simp only [entryIsSystem, Bool.or_eq_true, decide_eq_true_eq]
    exact role
  | reasoning carries =>
    exact judged.guarded index (guarded_of_marked found
      (.inr (.inl ((entryContainsReasoning_iff entry).2 carries))))
  | toolCall carries =>
    exact judged.guarded index (guarded_of_marked found
      (.inr (.inr (toolCallReferences_present carries))))
  | recent last =>
    have below : index < entries.length := (List.getElem?_eq_some_iff.1 found).1
    refine judged.guarded index ?_
    simp only [initialProtection, List.mem_append, List.mem_range'_1, contextKeepRecentItems]
    exact .inl (.inl (by omega))
  | currentInput role last =>
    refine judged.guarded index ?_
    simp only [initialProtection, List.mem_append, lastUserEntry_eq found role last]
    exact .inr (by simp)
  | malformedResult wrong member malformed =>
    refine result ⟨?_, fun completed => ?_⟩
    · rw [toolResultReferences_present]
      cases results : toolResults entry <;> simp_all
    · exact malformed ((not_mustSurvive_result completed).1 wrong member)
  | unpairedResult id member uncalled =>
    refine result ⟨?_, fun completed => ?_⟩
    · rw [toolResultReferences_present]
      cases results : toolResults entry <;> simp_all [toolResultIds]
    · exact uncalled ((not_mustSurvive_result completed).2 id member).1
  | repeatedResult id member repeated =>
    refine result ⟨?_, fun completed => ?_⟩
    · rw [toolResultReferences_present]
      cases results : toolResults entry <;> simp_all [toolResultIds]
    · obtain ⟨-, once, only⟩ := (not_mustSurvive_result completed).2 id member
      omega

end Analysis

theorem names_setField {fields : List (String × Json)} {key : String}
    (present : (Json.field fields key).isSome = true) (value : Json) :
    (Json.setField fields key value).map (·.1) = fields.map (·.1) := by
  induction fields with
  | nil => cases present
  | cons head rest ih =>
    obtain ⟨name, old⟩ := head
    by_cases here : name = key
    · simp [Json.setField, here]
    · simp only [Json.field_cons, here, if_false] at present
      simp [Json.setField, here, ih present]

theorem sameFieldsExcept_setField {fields : List (String × Json)} {key : String}
    (present : (Json.field fields key).isSome = true) (value : Json) {changed : List String}
    (listed : key ∈ changed) :
    sameFieldsExcept changed (.object fields) (.object (Json.setField fields key value)) := by
  refine ⟨fields, _, rfl, rfl, names_setField present value, ?_⟩
  intro other outside
  have apart : key ≠ other := fun same => outside (same ▸ listed)
  simp [Json.field_setField, apart]

theorem sameFieldsExcept.trans {changed : List String} {first second third : Json}
    (kept : sameFieldsExcept changed first second)
    (again : sameFieldsExcept changed second third) : sameFieldsExcept changed first third := by
  obtain ⟨fields, middle, rfl, rfl, names, same⟩ := kept
  obtain ⟨known, fields', known_, rfl, names', same'⟩ := again
  cases known_
  exact ⟨fields, fields', rfl, rfl, names'.trans names,
    fun key outside => (same' key outside).trans (same key outside)⟩

theorem sameFieldsExcept.str {changed : List String} {before after : Json}
    (kept : sameFieldsExcept changed before after) {key : String} (outside : key ∉ changed) :
    after.get key = before.get key := by
  obtain ⟨fields, newFields, rfl, rfl, -, same⟩ := kept
  exact same key outside

theorem BlockKept.result {before after : Json} (kept : BlockKept before after) :
    isResultBlock after = isResultBlock before := by
  rcases kept with rfl | ⟨-, same⟩
  · rfl
  · unfold isResultBlock Json.str
    rw [same.str (by simp)]

theorem BlockKept.trans {first second third : Json} (kept : BlockKept first second)
    (again : BlockKept second third) : BlockKept first third := by
  have result := kept.result
  rcases again with rfl | ⟨changed, later⟩
  · exact kept
  · rcases kept with rfl | ⟨-, earlier⟩
    · exact .inr ⟨changed, later⟩
    · exact .inr ⟨result ▸ changed, earlier.trans later⟩

theorem changeResultBlock_kept (change : Json → Option Json) (block : Json) :
    BlockKept block ((changeResultBlock change block).getD block) := by
  unfold changeResultBlock
  split_ifs with result
  · cases object : block.asObject with
    | none => exact .inl rfl
    | some fields =>
      have same : block = .object fields := by
        cases block <;> simp_all [Json.asObject]
      rw [Option.bind_some, changeField]
      cases changed : (Json.field fields "content").bind change with
      | none => exact .inl rfl
      | some value =>
        have present : (Json.field fields "content").isSome = true := by
          cases content : Json.field fields "content" <;> simp_all
        right
        refine ⟨result, ?_⟩
        rw [same]
        exact sameFieldsExcept_setField present value (by simp)
  · exact .inl rfl

/-- What one rewriting of an object does: it sets the output; or it sets the content, though not
that of a tool result that holds nested ones; or it changes nested results. -/
def Rewritten (toolResult : Bool) (before after : Json) : Prop :=
  ∃ fields, before = .object fields ∧
    ((∃ value, (Json.field fields "output").isSome ∧
        after = .object (Json.setField fields "output" value)) ∨
      (∃ value, (Json.field fields "content").isSome ∧
        (toolResult = true → nestedResults fields = none) ∧
        after = .object (Json.setField fields "content" value)) ∨
      ∃ blocks newBlocks, Json.field fields "content" = some (.array blocks) ∧
        List.Forall₂ BlockKept blocks newBlocks ∧
        after = .object (Json.setField fields "content" (.array newBlocks)))

section Rewriting

variable {toolResult : Bool} {fields : List (String × Json)} {after : Json}
  {change : Json → Option Json}

theorem rewritten_output (changed : changeField fields "output" change = some after) :
    Rewritten toolResult (.object fields) after := by
  obtain ⟨value, found, rfl⟩ := Option.map_eq_some_iff.1 changed
  obtain ⟨old, present, -⟩ := Option.bind_eq_some_iff.1 found
  exact ⟨fields, rfl, .inl ⟨value, by simp [present], rfl⟩⟩

theorem rewritten_content (plain : toolResult = true → nestedResults fields = none)
    (changed : changeField fields "content" change = some after) :
    Rewritten toolResult (.object fields) after := by
  obtain ⟨value, found, rfl⟩ := Option.map_eq_some_iff.1 changed
  obtain ⟨old, present, -⟩ := Option.bind_eq_some_iff.1 found
  exact ⟨fields, rfl, .inr (.inl ⟨value, by simp [present], plain, rfl⟩)⟩

theorem rewritten_nested {blocks : List Json} (nested : nestedResults fields = some blocks)
    (changed : changeResultBlocks change fields blocks = some after) :
    Rewritten toolResult (.object fields) after := by
  obtain ⟨read, -⟩ := Option.filter_eq_some_iff.1 nested
  obtain ⟨content, present, array⟩ := Option.bind_eq_some_iff.1 read
  have same : content = .array blocks := by
    cases content <;> simp_all [Json.asArray]
  subst same
  unfold changeResultBlocks at changed
  split_ifs at changed
  cases changed
  refine ⟨fields, rfl, .inr (.inr ⟨blocks, _, present, ?_, rfl⟩)⟩
  exact List.forall₂_map_right_iff.2 (List.forall₂_same.2 fun block _ =>
    changeResultBlock_kept change block)

theorem truncateEntryContent_rewritten {codec : JsonCodec} {maxChars : Nat} {label : String}
    (changed : truncateEntryContent codec maxChars label toolResult (.object fields) = some after) :
    Rewritten toolResult (.object fields) after := by
  unfold truncateEntryContent at changed
  simp only [Json.asObject] at changed
  split at changed
  · next blocks nested =>
    cases toolResult with
    | false => cases nested
    | true => exact rewritten_nested nested changed
  · next plain =>
    rcases Option.or_eq_some_iff.1 changed with content | ⟨-, output⟩
    · exact rewritten_content (fun flag => by simpa [flag] using plain) content
    · exact rewritten_output output

theorem compactEntry_rewritten {codec : JsonCodec}
    (changed : compactEntry codec toolResult (.object fields) = some after) :
    Rewritten toolResult (.object fields) after := by
  unfold compactEntry at changed
  simp only [Json.asObject] at changed
  split at changed
  · exact rewritten_output changed
  · split at changed
    · next blocks nested =>
      cases toolResult with
      | false => cases nested
      | true => exact rewritten_nested nested changed
    · next plain =>
      split at changed
      · exact rewritten_content (fun flag => by simpa [flag] using plain) changed
      · exact rewritten_output changed

end Rewriting

def NoNestedResults (entry : Json) : Prop :=
  ∀ blocks, entry.get "content" = some (.array blocks) → ∀ block ∈ blocks,
    isResultBlock block = false

theorem forall₂_blockKept_trans {first second third : List Json}
    (kept : List.Forall₂ BlockKept first second) (again : List.Forall₂ BlockKept second third) :
    List.Forall₂ BlockKept first third := by
  induction kept generalizing third with
  | nil =>
    cases again
    exact .nil
  | cons head rest ih =>
    cases again with
    | cons next more => exact .cons (head.trans next) (ih more)

theorem exists_result_of_kept {first second : List Json} (kept : List.Forall₂ BlockKept first second)
    (result : ∃ block ∈ first, isResultBlock block = true) :
    ∃ block ∈ second, isResultBlock block = true := by
  induction kept with
  | nil =>
    obtain ⟨block, member, -⟩ := result
    cases member
  | @cons block other blocks others same rest ih =>
    obtain ⟨found, member, nested⟩ := result
    rcases List.mem_cons.1 member with rfl | member
    · exact ⟨other, by simp, same.result.trans nested⟩
    · obtain ⟨found, member, nested⟩ := ih ⟨found, member, nested⟩
      exact ⟨found, by simp [member], nested⟩

theorem EntryKept.rewritten {toolResult : Bool} {before middle after : Json}
    (kept : EntryKept before middle) (safe : toolResult = true ∨ NoNestedResults before)
    (change : Rewritten toolResult middle after) : EntryKept before after := by
  have nested (blocks : List Json) (content : before.get "content" = some (.array blocks))
      (result : ∃ block ∈ blocks, isResultBlock block = true) : toolResult = true ∧
        ∃ newBlocks, middle.get "content" = some (.array newBlocks) ∧
          List.Forall₂ BlockKept blocks newBlocks ∧
          ∃ block ∈ newBlocks, isResultBlock block = true := by
    refine ⟨?_, ?_⟩
    · rcases safe with flag | none
      · exact flag
      · obtain ⟨block, member, found⟩ := result
        simp [none blocks content block member] at found
    · rcases kept with rfl | ⟨-, kept⟩
      · exact ⟨blocks, content, List.forall₂_same.2 fun _ _ => .inl rfl, result⟩
      · obtain ⟨newBlocks, found, same⟩ := kept blocks content result
        exact ⟨newBlocks, found, same, exists_result_of_kept same result⟩
  obtain ⟨fields, rfl, change⟩ := change
  have step : sameFieldsExcept ["content", "output"] (.object fields) after := by
    rcases change with ⟨value, present, rfl⟩ | ⟨value, present, -, rfl⟩ |
        ⟨blocks, newBlocks, present, -, rfl⟩
    · exact sameFieldsExcept_setField present value (by simp)
    · exact sameFieldsExcept_setField present value (by simp)
    · exact sameFieldsExcept_setField (by simp [present]) _ (by simp)
  refine .inr ⟨?_, ?_⟩
  · rcases kept with rfl | ⟨earlier, -⟩
    · exact step
    · exact earlier.trans step
  · intro blocks content result
    obtain ⟨flag, newBlocks, found, same, still⟩ := nested blocks content result
    rw [Json.get_object] at found
    rcases change with ⟨value, -, rfl⟩ | ⟨value, -, plain, rfl⟩ |
        ⟨others, changed, present, again, rfl⟩
    · exact ⟨newBlocks, by simp [Json.field_setField, found], same⟩
    · -- The content of a tool result with nested ones is never replaced as a whole.
      have some : nestedResults fields = some newBlocks := by
        rw [nestedResults, found, Option.bind_some, Json.asArray, Option.filter_eq_some_iff]
        exact ⟨rfl, List.any_eq_true.2 still⟩
      rw [plain flag] at some
      cases some
    · rw [found] at present
      cases present
      exact ⟨changed, by simp [Json.field_setField], forall₂_blockKept_trans same again⟩

/-- The entries after some rewriting: as many as before, each kept, and changed only at the
candidates. -/
structure Trimming (candidates : List Nat) (entries now : List Json) : Prop where
  length : now.length = entries.length
  kept : ∀ index before after, entries[index]? = some before → now[index]? = some after →
    EntryKept before after ∧ (index ∉ candidates → after = before)

theorem trimPass_trimming {codec : JsonCodec} {change : Nat → Json → Option Json}
    {count : Nat → ContextTrimStats → ContextTrimStats} {targetTokens : Nat}
    (toolResult : Nat → Bool) {candidates : List Nat} {entries : List Json}
    (rewrites : ∀ index fields after, change index (.object fields) = some after →
      Rewritten (toolResult index) (.object fields) after)
    (objects : ∀ index ∈ candidates, ∀ entry, entries[index]? = some entry →
      (∃ fields, entry = .object fields) ∧ (toolResult index = true ∨ NoNestedResults entry))
    {remaining : List Nat} (within : ∀ index ∈ remaining, index ∈ candidates)
    {now : List Json} (trimming : Trimming candidates entries now) (stats : ContextTrimStats) :
    Trimming candidates entries
      (trimPass codec change count targetTokens remaining (now, stats)).1 := by
  induction remaining generalizing now stats with
  | nil => exact trimming
  | cons index rest ih =>
    have later : ∀ index ∈ rest, index ∈ candidates := fun other member =>
      within other (List.mem_cons_of_mem _ member)
    rw [trimPass]
    split
    · exact trimming
    · split
      · next after changed =>
        refine ih later ⟨?_, ?_⟩ _
        · rw [List.length_set]
          exact trimming.length
        · intro place before known found present
          obtain ⟨middle, here, rewritten⟩ := Option.bind_eq_some_iff.1 changed
          have candidate := within index List.mem_cons_self
          by_cases same : index = place
          · subst same
            have below : index < now.length := (List.getElem?_eq_some_iff.1 here).1
            rw [List.getElem?_set_self below] at present
            cases present
            obtain ⟨⟨fields, rfl⟩, safe⟩ := objects index candidate before found
            obtain ⟨kept, -⟩ := trimming.kept index _ middle found here
            obtain ⟨newFields, rfl⟩ : ∃ newFields, middle = .object newFields := by
              rcases kept with rfl | ⟨⟨_, newFields, -, rfl, -⟩, -⟩
              · exact ⟨fields, rfl⟩
              · exact ⟨newFields, rfl⟩
            exact ⟨kept.rewritten safe (rewrites index newFields after rewritten),
              fun outside => absurd candidate outside⟩
          · rw [List.getElem?_set_ne same] at present
            exact trimming.kept place before known found present
      · exact ih later trimming stats

theorem object_of_str {entry : Json} {key value : String} (read : entry.str key = some value) :
    ∃ fields, entry = .object fields := by
  cases entry with
  | object fields => exact ⟨fields, rfl⟩
  | _ => cases read

-- A candidate is an object, and holds nested results only if it counts as a tool result.
theorem candidate_object {entries : List Json} {index : Nat} {entry : Json}
    (candidate : index ∈ trimCandidates entries (analyzeContextEntries entries))
    (found : entries[index]? = some entry) :
    (∃ fields, entry = .object fields) ∧
      (decide (index ∈ (analyzeContextEntries entries).compactableToolResults) = true ∨
        NoNestedResults entry) := by
  rcases List.mem_append.1 candidate with compactable | plain
  · rw [List.mem_insertionSort] at compactable
    obtain ⟨other, same, present, -⟩ := compactable_entry compactable
    rw [found] at same
    cases same
    refine ⟨?_, .inl (by simp [compactable])⟩
    -- Only an object has a type, a role or blocks.
    cases entry with
    | object fields => exact ⟨fields, rfl⟩
    | _ => cases present
  · simp only [List.mem_map, List.mem_filter, Bool.and_eq_true, Prod.exists,
      List.mem_zipIdx_iff_getElem?] at plain
    obtain ⟨other, place, ⟨same, -, plain⟩, rfl⟩ := plain
    rw [found] at same
    cases same
    simp only [entryIsPlainConversation, Bool.and_eq_true, Bool.or_eq_true, decide_eq_true_eq,
      Bool.not_eq_true'] at plain
    obtain ⟨⟨⟨speaker, -⟩, resultless⟩, -⟩ := plain
    refine ⟨?_, .inr ?_⟩
    · rcases speaker with (role | role) | type
      · exact object_of_str role
      · exact object_of_str role
      · exact object_of_str type
    · intro blocks content block member
      rw [toolResultReferences_present] at resultless
      by_contra nested
      have listed : block ∈ (contentBlocks entry).filter isResultBlock := by
        rw [contentBlocks, content]
        exact List.mem_filter.2 ⟨member, by simpa using nested⟩
      simp only [Bool.not_eq_false', List.isEmpty_iff, toolResults, List.append_eq_nil_iff,
        List.map_eq_nil_iff] at resultless
      rw [resultless.2] at listed
      cases listed

theorem trimEntriesToBudget_trimming (codec : JsonCodec) (entries : List Json) (targetTokens : Nat) :
    Trimming (trimCandidates entries (analyzeContextEntries entries)) entries
      (trimEntriesToBudget codec entries targetTokens (analyzeContextEntries entries)).1 := by
  have start : Trimming (trimCandidates entries (analyzeContextEntries entries)) entries entries :=
    ⟨rfl, fun index before after found again => by
      rw [found] at again
      cases again
      exact ⟨.inl rfl, fun _ => rfl⟩⟩
  unfold trimEntriesToBudget
  let isResult index : Bool := index ∈ (analyzeContextEntries entries).compactableToolResults
  refine trimPass_trimming isResult
    (fun index fields after changed => compactEntry_rewritten changed)
    (fun index candidate entry found => candidate_object candidate found) (fun _ member => member)
    (trimPass_trimming isResult ?_
      (fun index candidate entry found => candidate_object candidate found)
      (fun _ member => member) start _) _
  intro index fields after changed
  split_ifs at changed with result
  · have flag : isResult index = true := result
    rw [flag]
    exact truncateEntryContent_rewritten changed
  · have flag : isResult index = false := Bool.eq_false_iff.2 result
    rw [flag]
    exact truncateEntryContent_rewritten changed

theorem guarded_not_candidate {entries : List Json} {index : Nat}
    (guarded : index ∈ (analyzeContextEntries entries).guarded) :
    index ∉ trimCandidates entries (analyzeContextEntries entries) := by
  intro candidate
  rcases List.mem_append.1 candidate with compactable | plain
  · rw [List.mem_insertionSort] at compactable
    exact compactable_not_guarded compactable guarded
  · simp only [List.mem_map, List.mem_filter, Bool.and_eq_true, Prod.exists,
      decide_eq_true_eq] at plain
    obtain ⟨other, place, ⟨-, ⟨free, -⟩, -⟩, rfl⟩ := plain
    exact free guarded

def contextArray (payload : Json) : Option (String × List Json) :=
  (((payload.get "messages").bind Json.asArray).map fun entries => ("messages", entries)).or
    (((payload.get "input").bind Json.asArray).map fun entries => ("input", entries))

def pairingFields : List String :=
  ["role", "type", "call_id", "tool_call_id", "tool_use_id", "tool_calls"]

/-- As many entries in the same order, those that must survive as they were, and no other changed
in more than its content or output. -/
def EntriesKept (entries newEntries : List Json) : Prop :=
  newEntries.length = entries.length ∧
    ∀ (index : Nat) before after, entries[index]? = some before →
      newEntries[index]? = some after →
      (MustSurvive entries index before → after = before) ∧ EntryKept before after ∧
      ∀ field ∈ pairingFields, after.get field = before.get field

theorem trimEntriesToBudget_kept (codec : JsonCodec) (entries : List Json) (targetTokens : Nat) :
    EntriesKept entries
      (trimEntriesToBudget codec entries targetTokens (analyzeContextEntries entries)).1 := by
  have trimming := trimEntriesToBudget_trimming codec entries targetTokens
  refine ⟨trimming.length, ?_⟩
  intro index before after here now
  obtain ⟨kept, unchanged⟩ := trimming.kept index before after here now
  refine ⟨fun must => unchanged (guarded_not_candidate (guarded_of_mustSurvive here must)), kept,
    ?_⟩
  intro field listed
  rcases kept with rfl | ⟨same, -⟩
  · rfl
  · refine same.str ?_
    revert field
    decide

theorem context_trimming_keeps (codec : JsonCodec) (payload : Json) (targetTokens : Nat) :
    match contextArray payload with
    | none => (trimContextEntries codec payload targetTokens).1 = payload
    | some (key, entries) =>
      sameFieldsExcept [key] payload (trimContextEntries codec payload targetTokens).1 ∧
      ∃ newEntries,
        (trimContextEntries codec payload targetTokens).1.get key = some (.array newEntries) ∧
        EntriesKept entries newEntries := by
  cases payload with
  | object fields =>
    have step (key : String) (entries : List Json)
        (found : Json.field fields key = some (.array entries)) :
        sameFieldsExcept [key] (.object fields) (.object (Json.setField fields key
          (.array (trimEntriesToBudget codec entries targetTokens
            (analyzeContextEntries entries)).1))) ∧
        ∃ newEntries,
          Json.field (Json.setField fields key (.array (trimEntriesToBudget codec entries
            targetTokens (analyzeContextEntries entries)).1)) key = some (.array newEntries) ∧
          EntriesKept entries newEntries :=
      ⟨sameFieldsExcept_setField (by simp [found]) _ (by simp), _,
        by simp [Json.field_setField], trimEntriesToBudget_kept codec entries targetTokens⟩
    have array {key : String} {entries : List Json}
        (read : (Json.field fields key).bind Json.asArray = some entries) :
        Json.field fields key = some (.array entries) := by
      obtain ⟨value, found, same⟩ := Option.bind_eq_some_iff.1 read
      cases value <;> simp_all [Json.asArray]
    cases messages : (Json.field fields "messages").bind Json.asArray with
    | some entries =>
      simp only [contextArray, Json.get_object, messages, Option.map_some, Option.some_or,
        trimContextEntries, trimContextEntriesWithProtection, Json.asObject, contextProtection,
        contextEntries, Option.getD_some]
      exact step "messages" entries (array messages)
    | none =>
      cases input : (Json.field fields "input").bind Json.asArray with
      | some entries =>
        simp only [contextArray, Json.get_object, messages, input, Option.map_some, Option.map_none,
          Option.none_or, trimContextEntries, trimContextEntriesWithProtection, Json.asObject,
          contextProtection, contextEntries, Option.getD_some]
        exact step "input" entries (array input)
      | none =>
        simp only [contextArray, Json.get_object, messages, input, Option.map_none, Option.none_or,
          trimContextEntries, trimContextEntriesWithProtection, Json.asObject]
  | _ => rfl

end ChatGateway
