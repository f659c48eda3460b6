import ChatGateway.Gateway.HistoryPieces

set_option autoImplicit false

/-!
# Claude histories without loss

The turns of a request hold its pieces, and its tool results follow their calls.
-/

namespace ChatGateway

section Messages

variable {codec : JsonCodec}

theorem blockContent_eq_nil {part : Json} (silent : speaks part = false) : blockContent part = [] := by
  simp only [speaks, Bool.or_eq_false_iff, decide_eq_false_iff_not, Option.isSome_eq_false_iff,
    Option.isNone_iff_eq_none] at silent
  simp [blockContent, silent.1, silent.2]

theorem blockContent_ne_nil {part : Json} (speaking : speaks part = true) : blockContent part ≠ [] := by
  unfold blockContent
  split_ifs with image
  · simp
  · simp only [speaks, image, decide_false, Bool.false_or] at speaking
    obtain ⟨text, told⟩ := Option.isSome_iff_exists.1 speaking
    simp [told]

theorem toolsFollow_pending (called : List String) {pending : List MessagePart}
    (waiting : pending ≠ []) (parts : List Json) (later : List ChatTurn) :
    ToolsFollow called (userTurns codec pending parts ++ later) ↔
      (parts.all fun part => partType part ≠ "tool_result") = true ∧ ToolsFollow [] later := by
  induction parts generalizing pending with
  | nil => simp [userTurns, spoken, waiting, ToolsFollow]
  | cons part rest ih =>
    rw [userTurns]
    split_ifs with result
    · simp [spoken, waiting, resultTurn, ToolsFollow, result]
    · rw [ih (by simp [waiting])]
      simp [result]

theorem toolsFollow_user {called : List String} {parts : List Json}
    (known : ∀ part ∈ parts, partType part = "tool_result" →
      (part.str "tool_use_id").getD "" ∈ called) (later : List ChatTurn) : ∃ still,
      ToolsFollow called (userTurns codec [] parts ++ later) ↔
        resultsFirst parts = true ∧ ToolsFollow still later := by
  induction parts with
  | nil => exact ⟨called, by simp [userTurns, spoken, resultsFirst]⟩
  | cons part rest ih =>
    obtain ⟨still, same⟩ := ih fun other member => known other (List.mem_cons_of_mem _ member)
    rw [userTurns, resultsFirst, List.nil_append]
    split_ifs with result speaking
    · refine ⟨still, ?_⟩
      have member := known part (List.mem_cons_self ..) result
      simp only [spoken, if_true, List.nil_append, List.cons_append, resultTurn, ToolsFollow, member,
        true_and]
      exact same
    · exact ⟨[], toolsFollow_pending called (blockContent_ne_nil speaking) rest later⟩
    · rw [blockContent_eq_nil (by simpa using speaking)]
      exact ⟨still, same⟩

theorem toolsFollow_turnsOf {message : Json} {turns : List ChatTurn}
    (of : TurnsOf codec message turns) {called : List String}
    (answers : answeredIds message ⊆ called) (later : List ChatTurn) : ∃ still,
      calledIds message ⊆ still ∧ (ToolsFollow called (turns ++ later) ↔
        messageResultsFirst message = true ∧ ToolsFollow still later) := by
  cases of with
  | assistant parts thinking blocks =>
    have silent : messageBlocks "user" message = none := by
      have role : message.str "role" = some "assistant" := by
        by_contra other
        rw [messageBlocks, if_neg other] at blocks
        cases blocks
      simp [messageBlocks, role]
    refine ⟨(assistantCalls codec parts).map ChatCall.id, ?_, ?_⟩
    · simp [calledIds, blocks, assistantCalls, callOf, Function.comp_def]
    · simp [messageResultsFirst, silent, resultsFirst, ToolsFollow]
  | user parts other blocks =>
    have known : ∀ part ∈ parts, partType part = "tool_result" →
        (part.str "tool_use_id").getD "" ∈ called := by
      intro part member result
      refine answers (List.mem_map.2 ⟨part, ?_, rfl⟩)
      rw [blocks]
      exact List.mem_filter.2 ⟨member, decide_eq_true result⟩
    obtain ⟨still, same⟩ := @toolsFollow_user codec called parts known later
    simp only [messageResultsFirst, blocks, Option.getD_some, calledIds, other, Option.getD_none,
      List.filter_nil, List.map_nil, List.nil_subset, true_and]
    unfold userMessageTurns
    split_ifs with empty
    · -- A message that says nothing is sent as an empty text.
      rw [empty, List.nil_append] at same
      refine ⟨[], ?_⟩
      have first : resultsFirst parts = true := by
        obtain ⟨alone, agrees⟩ := @toolsFollow_user codec called parts known []
        rw [empty] at agrees
        exact (agrees.1 trivial).1
      simp [ToolsFollow, first]
    · exact ⟨still, same⟩
  | plain role other another =>
    refine ⟨[], by simp [calledIds, other], ?_⟩
    simp [messageResultsFirst, another, resultsFirst, ToolsFollow]

theorem history_turns {messages : List Json} {results : List (List Json)}
    (converted : messages.mapM (claudeMessageToChatMessages codec) = .ok results) : ∃ turnLists,
      List.Forall₂ (TurnsOf codec) messages turnLists ∧
      results.flatten = turnLists.flatten.map ChatTurn.render := by
  induction messages generalizing results with
  | nil =>
    cases converted
    exact ⟨[], .nil, rfl⟩
  | cons message rest ih =>
    rw [List.mapM_cons, Except.bind_eq_ok] at converted
    obtain ⟨result, first, later⟩ := converted
    rw [Except.bind_eq_ok] at later
    obtain ⟨others, later, same⟩ := later
    cases same
    obtain ⟨turns, of, rfl⟩ := message_turns first
    obtain ⟨turnLists, all, same⟩ := ih later
    refine ⟨turns :: turnLists, .cons of all, ?_⟩
    rw [List.flatten_cons, List.flatten_cons, same, List.map_append]

theorem pieces_history {messages : List Json} {turnLists : List (List ChatTurn)}
    (all : List.Forall₂ (TurnsOf codec) messages turnLists)
    (reads : ∀ message ∈ messages, ∀ parts, messageBlocks "assistant" message = some parts →
      ∀ part ∈ parts, ReadsInput codec part) (kind : PieceKind) :
    ofKind kind (turnLists.flatten.flatMap (ChatTurn.pieces codec)) =
      ofKind kind (messages.flatMap (messagePieces codec)) := by
  induction all with
  | nil => rfl
  | cons of rest ih =>
    rw [List.flatten_cons, List.flatMap_append, List.flatMap_cons, ofKind_append, ofKind_append,
      pieces_turnsOf of (reads _ (List.mem_cons_self ..)) kind,
      ih fun message member => reads message (List.mem_cons_of_mem _ member)]

theorem toolsFollow_history {messages : List Json} {turnLists : List (List ChatTurn)}
    (all : List.Forall₂ (TurnsOf codec) messages turnLists) {called still : List String}
    (answers : AnswersCalls called messages) (known : called ⊆ still) :
    ToolsFollow still turnLists.flatten ↔
      ∀ message ∈ messages, messageResultsFirst message = true := by
  induction all generalizing called still with
  | nil => simp [ToolsFollow]
  | @cons message turns rest lists of _ ih =>
    obtain ⟨own, later⟩ := answers
    have answered : answeredIds message ⊆ still := by
      by_cases user : message.str "role" = some "user"
      · exact fun id member => known ((own user).subset member)
      · simp [answeredIds, messageBlocks, user]
    obtain ⟨next, kept, same⟩ := toolsFollow_turnsOf of answered lists.flatten
    rw [List.flatten_cons, same, ih later kept, List.forall_mem_cons]

theorem saidPieces_eq_nil {texts : List String} (silent : joinLines texts = "") :
    saidPieces texts = [] := by
  cases texts with
  | nil => rfl
  | cons text rest =>
    by_cases last : rest = []
    · subst last
      rw [joinLines, String.intercalate_singleton] at silent
      simp [saidPieces, textPieces, nonempty, silent]
    · -- Two lines have a line break between them.
      rw [joinLines, String.intercalate_cons_of_ne_nil last] at silent
      have broken := congrArg (fun text => '\n' ∈ text.toList) silent
      simp at broken

theorem extractClaudeSystemText_eq (system : Json) :
    extractClaudeSystemText system = joinLines (systemTexts (some system)) := by
  cases system <;> rfl

def systemTurns (system : Option Json) : List ChatTurn :=
  if joinLines (systemTexts system) = "" then []
  else [.message "system" ((systemTexts system).map MessagePart.text)]

theorem systemMessages_eq (body : Json) :
    systemMessages body = (systemTurns (body.get "system")).map ChatTurn.render := by
  unfold systemMessages systemTurns
  cases body.get "system" with
  | none => rfl
  | some system =>
    simp only [extractClaudeSystemText_eq]
    split_ifs with silent
    · rfl
    · rw [List.map_singleton, render_texts]

theorem pieces_systemTurns (system : Option Json) :
    (systemTurns system).flatMap (ChatTurn.pieces codec) = saidPieces (systemTexts system) := by
  unfold systemTurns
  split_ifs with silent
  · rw [saidPieces_eq_nil silent]
    rfl
  · simp [ChatTurn.pieces, List.flatMap_map, MessagePart.pieces, saidPieces]

theorem toolsFollow_systemTurns (system : Option Json) (later : List ChatTurn) :
    ToolsFollow [] (systemTurns system ++ later) ↔ ToolsFollow [] later := by
  unfold systemTurns
  split_ifs <;> simp [ToolsFollow]

theorem payload_messages {body payload : Json}
    (accepted : claudeMessagesToChatPayload codec body = .ok payload) : ∃ results,
      (requestMessages body).mapM (claudeMessageToChatMessages codec) = .ok results ∧
      payload.get "messages" = some (.array (systemMessages body ++ results.flatten)) := by
  unfold claudeMessagesToChatPayload at accepted
  split at accepted
  · cases accepted
  · cases accepted
  · next model messages _ found =>
    rw [Except.bind_eq_ok] at accepted
    obtain ⟨results, converted, accepted⟩ := accepted
    rw [Except.bind_eq_ok] at accepted
    obtain ⟨tools, -, accepted⟩ := accepted
    rw [Except.bind_eq_ok] at accepted
    obtain ⟨toolChoice, -, accepted⟩ := accepted
    cases accepted
    refine ⟨results, by rw [requestMessages, found]; exact converted, ?_⟩
    simp

/-- The Chat messages have the texts, images, calls and results of the request, each once and in
order, and the results stand behind their calls just when no content was sent before them. -/
theorem history_pieces_kept (codec : JsonCodec) (body payload : Json)
    (accepted : claudeMessagesToChatPayload codec body = .ok payload)
    (reads : ReadsInputs codec body) (answers : AnswersCalls [] (requestMessages body)) : ∃ turns,
      payload.get "messages" = some (.array (turns.map ChatTurn.render)) ∧
      (∀ kind, ofKind kind (turns.flatMap (ChatTurn.pieces codec)) =
        ofKind kind (requestPieces codec body)) ∧
      (ToolsFollow [] turns ↔
        ∀ message ∈ requestMessages body, messageResultsFirst message = true) := by
  obtain ⟨results, converted, found⟩ := payload_messages accepted
  obtain ⟨turnLists, all, same⟩ := history_turns converted
  refine ⟨systemTurns (body.get "system") ++ turnLists.flatten, ?_, ?_, ?_⟩
  · rw [found, systemMessages_eq, same, List.map_append]
  · intro kind
    rw [List.flatMap_append, ofKind_append, pieces_systemTurns, pieces_history all reads kind,
      ← ofKind_append]
    rfl
  · rw [toolsFollow_systemTurns]
    exact toolsFollow_history all answers (List.Subset.refl _)

end Messages

def parisCodec : JsonCodec :=
  serdeCodec fun text =>
    if text = "\x7b\"city\":\"Paris\"\x7d" then [some (.object [("city", .string "Paris")])]
    else [none]

def weatherCall : Json :=
  .object [("role", .string "assistant"), ("content", .array [
    .object [("type", .string "text"), ("text", .string "Calling tool")],
    .object [("type", .string "tool_use"), ("id", .string "toolu_01"),
      ("name", .string "get_weather"), ("input", .object [("city", .string "Paris")])]])]

def weatherResult : Json :=
  .object [("type", .string "tool_result"), ("tool_use_id", .string "toolu_01"),
    ("content", .string "Sunny")]

def weatherRequest (answer : List Json) : Json :=
  .object [("model", .string "opaque-model"), ("messages", .array [weatherCall,
    .object [("role", .string "user"), ("content", .array answer)]])]

theorem weatherRequest_reads (answer : List Json) :
    ReadsInputs parisCodec (weatherRequest answer) := by
  intro message member parts blocks part inside isCall input found plain
  have members : message = weatherCall ∨
      message = .object [("role", .string "user"), ("content", .array answer)] := by
    simpa [requestMessages, weatherRequest, Json.asArray] using member
  rcases members with rfl | rfl
  · cases blocks
    rcases List.mem_cons.1 inside with rfl | inside
    · exact absurd isCall (by decide)
    · cases List.mem_singleton.1 inside
      cases found
      decide +kernel
  · cases blocks

/-- A request whose result comes before its text. -/
theorem result_before_text_kept :
    AnswersCalls [] (requestMessages (weatherRequest [weatherResult, textPart "What next?"])) ∧
    ∃ payload turns,
      claudeMessagesToChatPayload parisCodec
        (weatherRequest [weatherResult, textPart "What next?"]) = .ok payload ∧
      payload.get "messages" = some (.array (turns.map ChatTurn.render)) ∧ ToolsFollow [] turns := by
  have answers : AnswersCalls []
      (requestMessages (weatherRequest [weatherResult, textPart "What next?"])) := by
    refine ⟨by decide, ⟨fun _ => ?_, trivial⟩⟩
    exact List.Perm.refl _
  obtain ⟨payload, accepted⟩ : ∃ payload, claudeMessagesToChatPayload parisCodec
      (weatherRequest [weatherResult, textPart "What next?"]) = .ok payload := ⟨_, rfl⟩
  obtain ⟨turns, same, -, follow⟩ :=
    history_pieces_kept parisCodec _ payload accepted (weatherRequest_reads _) answers
  exact ⟨answers, payload, turns, accepted, same, follow.2 (by decide)⟩

/-- The text comes first: it stands between the call and its result. -/
theorem text_before_result_splits :
    AnswersCalls [] (requestMessages (weatherRequest [textPart "Here", weatherResult])) ∧
    ∃ payload turns,
      claudeMessagesToChatPayload parisCodec
        (weatherRequest [textPart "Here", weatherResult]) = .ok payload ∧
      payload.get "messages" = some (.array (turns.map ChatTurn.render)) ∧
      turns.map (fun turn => (turn.render.str "role").getD "") = ["assistant", "user", "tool"] ∧
      ¬ ToolsFollow [] turns := by
  refine ⟨⟨by decide, ⟨fun _ => List.Perm.refl _, trivial⟩⟩, _,
    [.assistant ["Calling tool"] [⟨"toolu_01", "get_weather", "\x7b\"city\":\"Paris\"\x7d"⟩] [],
      .message "user" [.text "Here"], .tool "toolu_01" "Sunny"], rfl, ?_, by decide, ?_⟩
  · decide +kernel
  · rintro ⟨⟨⟩, -⟩

end ChatGateway
