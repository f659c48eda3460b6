import ChatGateway.Gateway.ClaudeHistory

set_option autoImplicit false

/-!
# What a Claude history keeps

The pieces of a request are its texts, images, tool calls and tool results. They are compared with
the pieces of the Chat messages made of it.
-/

namespace ChatGateway

inductive PieceKind where
  | text
  | image
  | call
  | result
deriving DecidableEq, Repr

inductive HistoryPiece where
  | text (text : String)
  | image (url : String)
  | call (id name : String) (arguments : Json)
  | result (id content : String)
deriving DecidableEq

def HistoryPiece.kind : HistoryPiece → PieceKind
  | text _ => .text
  | image _ => .image
  | call .. => .call
  | result .. => .result

def ofKind (kind : PieceKind) (pieces : List HistoryPiece) : List HistoryPiece :=
  pieces.filter fun piece => piece.kind = kind

def readArguments (codec : JsonCodec) (arguments : String) : Json :=
  match codec.readStream arguments with
  | [some value] => value
  | _ => .string arguments

def textPieces (text : Option String) : List HistoryPiece :=
  ((nonempty text).map HistoryPiece.text).toList

def toolInput (codec : JsonCodec) (block : Json) : Json :=
  match block.get "input" with
  | some (.string text) => readArguments codec text
  | some input => input
  | none => readArguments codec "\x7b\x7d"

def assistantPieces (codec : JsonCodec) (part : Json) : List HistoryPiece :=
  if partType part = "thinking" then []
  else if partType part = "tool_use" then
    [.call ((part.str "id").getD "") ((part.str "name").getD "") (toolInput codec part)]
  else textPieces (part.str "text")

def imageUrl (block : Json) : String :=
  let source (name : String) := (block.get "source").bind (·.str name)
  if source "type" = some "url" then (source "url").getD ""
  else "data:" ++ (source "media_type").getD "" ++ ";base64," ++ (source "data").getD ""

def userPieces (codec : JsonCodec) (part : Json) : List HistoryPiece :=
  if partType part = "tool_result" then
    [.result ((part.str "tool_use_id").getD "")
      (claudeToolResultContentToText codec (part.get "content"))]
  else if partType part = "image" then [.image (imageUrl part)]
  else textPieces (part.str "text")

def plainTexts : Option Json → List String
  | some (.string text) => [text]
  | some (.array parts) => parts.filterMap plainTextOf
  | some (.object object) => ((Json.field object "text").bind Json.asStr).toList
  | _ => []

def messageBlocks (role : String) (message : Json) : Option (List Json) :=
  if message.str "role" = some role then (message.get "content").bind Json.asArray else none

def messagePieces (codec : JsonCodec) (message : Json) : List HistoryPiece :=
  match messageBlocks "assistant" message, messageBlocks "user" message with
  | some parts, _ => parts.flatMap (assistantPieces codec)
  | none, some parts => parts.flatMap (userPieces codec)
  | none, none => (plainTexts (message.get "content")).flatMap fun text => textPieces (some text)

def systemTexts : Option Json → List String
  | some (.string text) => [text]
  | some (.array parts) => parts.filterMap plainTextOf
  | _ => []

def requestMessages (body : Json) : List Json :=
  ((body.get "messages").bind Json.asArray).getD []

def requestPieces (codec : JsonCodec) (body : Json) : List HistoryPiece :=
  ((systemTexts (body.get "system")).flatMap fun text => textPieces (some text)) ++
    (requestMessages body).flatMap (messagePieces codec)

inductive MessagePart where
  | text (text : String)
  | image (url : String)
deriving DecidableEq, Repr

namespace MessagePart

def isImage : MessagePart → Bool
  | image _ => true
  | text _ => false

def toJson : MessagePart → Json
  | text said => textPart said
  | image url => imagePart url

def pieces : MessagePart → List HistoryPiece
  | text said => textPieces (some said)
  | image url => [.image url]

end MessagePart

structure ChatCall where
  id : String
  name : String
  arguments : String
deriving DecidableEq, Repr

def ChatCall.toJson (call : ChatCall) : Json :=
  .object [("id", .string call.id), ("type", .string "function"),
    ("function", .object [("name", .string call.name), ("arguments", .string call.arguments)])]

inductive ChatTurn where
  | message (role : String) (parts : List MessagePart)
  | assistant (texts : List String) (calls : List ChatCall) (thinking : List ClaudeThinkingEntry)
  | tool (id content : String)

namespace ChatTurn

def render : ChatTurn → Json
  | message role parts =>
    .object [("role", .string role),
      ("content", if parts.any MessagePart.isImage then .array (parts.map MessagePart.toJson)
        else .string (joinLines ((parts.map MessagePart.toJson).filterMap (·.str "text"))))]
  | assistant texts calls thinking =>
    AssistantParts.message
      { textParts := texts, toolCalls := calls.map ChatCall.toJson, thinkingBlocks := thinking }
  | tool id content =>
    .object [("role", .string "tool"), ("tool_call_id", .string id), ("content", .string content)]

def pieces (codec : JsonCodec) : ChatTurn → List HistoryPiece
  | message _ parts => parts.flatMap MessagePart.pieces
  | assistant texts calls _ => (texts.flatMap fun text => textPieces (some text)) ++
      calls.map fun call => .call call.id call.name (readArguments codec call.arguments)
  | tool id content => [.result id content]

end ChatTurn

/-- Every tool message follows the assistant message that called for it, with only tool messages
of the same turn between them. -/
def ToolsFollow : List String → List ChatTurn → Prop
  | _, [] => True
  | called, .tool id _ :: rest => id ∈ called ∧ ToolsFollow called rest
  | _, .assistant _ calls _ :: rest => ToolsFollow (calls.map ChatCall.id) rest
  | _, .message .. :: rest => ToolsFollow [] rest

def calledIds (message : Json) : List String :=
  (((messageBlocks "assistant" message).getD []).filter fun part =>
    partType part = "tool_use").map fun part => (part.str "id").getD ""

def answeredIds (message : Json) : List String :=
  (((messageBlocks "user" message).getD []).filter fun part =>
    partType part = "tool_result").map fun part => (part.str "tool_use_id").getD ""

def AnswersCalls : List String → List Json → Prop
  | _, [] => True
  | called, message :: rest =>
    (message.str "role" = some "user" → (answeredIds message).Perm called) ∧
      AnswersCalls (calledIds message) rest

def speaks (part : Json) : Bool :=
  partType part = "image" || (nonempty (part.str "text")).isSome

def resultsFirst : List Json → Bool
  | [] => true
  | part :: rest =>
    if partType part = "tool_result" then resultsFirst rest
    else if speaks part then rest.all fun other => partType other ≠ "tool_result"
    else resultsFirst rest

def messageResultsFirst (message : Json) : Bool :=
  resultsFirst ((messageBlocks "user" message).getD [])

def ReadsInputs (codec : JsonCodec) (body : Json) : Prop :=
  ∀ message ∈ requestMessages body, ∀ parts, messageBlocks "assistant" message = some parts →
    ∀ part ∈ parts, partType part = "tool_use" → ∀ input, part.get "input" = some input →
      (∀ text, input ≠ .string text) → codec.readStream (codec.print input) = [some input]

section Blocks

variable {codec : JsonCodec} {part : Json}

theorem toolUse_converted {toolCall : Json}
    (converted : claudeToolUseToChatToolCall codec part = .ok toolCall) : ∃ id name,
      part.str "id" = some id ∧ part.str "name" = some name ∧
      toolCall = ChatCall.toJson ⟨id, name, toolUseArguments codec (part.get "input")⟩ := by
  unfold claudeToolUseToChatToolCall at converted
  cases block : part.asObject with
  | none => simp [block] at converted
  | some object =>
    simp only [block] at converted
    split at converted
    · cases converted
    · next id foundId =>
      split at converted
      · cases converted
      · next name foundName =>
        cases converted
        refine ⟨id, name, ?_, ?_, ?_⟩
        · simpa [Json.str, Json.get, block] using foundId
        · simpa [Json.str, Json.get, block] using foundName
        · simp [ChatCall.toJson, Json.get, block]

theorem toolResult_converted {message : Json}
    (converted : claudeToolResultToChatToolMessage codec part = .ok message) : ∃ id,
      part.str "tool_use_id" = some id ∧
      message = (ChatTurn.tool id
        (claudeToolResultContentToText codec (part.get "content"))).render := by
  unfold claudeToolResultToChatToolMessage at converted
  cases block : part.asObject with
  | none => simp [block] at converted
  | some object =>
    simp only [block] at converted
    split at converted
    · cases converted
    · next id foundId =>
      cases converted
      refine ⟨id, ?_, ?_⟩
      · simpa [Json.str, Json.get, block] using foundId
      · simp [ChatTurn.render, Json.get, block]

theorem image_converted {image : Json} (converted : claudeImageToChatContent part = .ok image) :
    image = imagePart (imageUrl part) := by
  unfold claudeImageToChatContent at converted
  cases found : part.get "source" with
  | none => simp [found] at converted
  | some value =>
    cases value with
    | object source =>
      simp only [found, Option.bind_some, Json.asObject] at converted
      have fields (name : String) : (part.get "source").bind (·.str name) =
          (Json.field source name).bind Json.asStr := by
        simp [found, Json.str]
      unfold claudeImageUrl at converted
      simp only at converted
      split at converted
      · cases converted
      · next kind =>
        split at converted
        · cases converted
        · next url filled =>
          cases converted
          obtain ⟨filled, -⟩ := Option.filter_eq_some_iff.1 filled
          simp only [imageUrl, fields, kind, filled, if_true, Option.getD_some]
      · next kind =>
        split at converted
        · cases converted
        · next mediaType filledType =>
          split at converted
          · cases converted
          · next data filledData =>
            cases converted
            obtain ⟨filledType, -⟩ := Option.filter_eq_some_iff.1 filledType
            obtain ⟨filledData, -⟩ := Option.filter_eq_some_iff.1 filledData
            simp only [imageUrl, fields, kind, filledType, filledData, Option.getD_some,
              Option.some_inj, String.reduceEq, if_false]
      · cases converted
    | _ => simp [found, Json.asObject] at converted

end Blocks

section Messages

variable {codec : JsonCodec}

def callOf (codec : JsonCodec) (part : Json) : ChatCall where
  id := (part.str "id").getD ""
  name := (part.str "name").getD ""
  arguments := toolUseArguments codec (part.get "input")

def assistantTexts (parts : List Json) : List String :=
  (parts.filter fun part => partType part ≠ "thinking" ∧ partType part ≠ "tool_use").filterMap
    fun part => nonempty (part.str "text")

def assistantCalls (codec : JsonCodec) (parts : List Json) : List ChatCall :=
  (parts.filter fun part => partType part = "tool_use").map (callOf codec)

theorem assistantTexts_append (first second : List Json) :
    assistantTexts (first ++ second) = assistantTexts first ++ assistantTexts second := by
  simp [assistantTexts]

theorem assistantCalls_append (codec : JsonCodec) (first second : List Json) :
    assistantCalls codec (first ++ second) =
      assistantCalls codec first ++ assistantCalls codec second := by
  simp [assistantCalls]

theorem assistant_take {before after : AssistantParts} {part : Json}
    (taken : before.take codec part = .ok after) :
    after.textParts = before.textParts ++ assistantTexts [part] ∧
      after.toolCalls = before.toolCalls ++ (assistantCalls codec [part]).map ChatCall.toJson := by
  unfold AssistantParts.take at taken
  split_ifs at taken with thinking toolUse
  · cases taken
    unfold AssistantParts.takeThinking
    dsimp only
    split_ifs <;> simp [assistantTexts, assistantCalls, thinking]
  · obtain ⟨toolCall, converted, rfl⟩ := Except.map_eq_ok.1 taken
    obtain ⟨id, name, foundId, foundName, rfl⟩ := toolUse_converted converted
    simp [assistantTexts, assistantCalls, callOf, toolUse, foundId, foundName]
  · cases taken
    unfold AssistantParts.takeText
    cases told : nonempty (part.str "text") <;>
      simp [assistantTexts, assistantCalls, thinking, toolUse, told]

theorem assistant_fold {before after : AssistantParts} {parts : List Json}
    (taken : parts.foldlM (AssistantParts.take codec) before = .ok after) :
    after.textParts = before.textParts ++ assistantTexts parts ∧
      after.toolCalls = before.toolCalls ++ (assistantCalls codec parts).map ChatCall.toJson := by
  induction parts generalizing before with
  | nil =>
    cases taken
    simp [assistantTexts, assistantCalls]
  | cons part rest ih =>
    rw [List.foldlM_cons, Except.bind_eq_ok] at taken
    obtain ⟨middle, first, later⟩ := taken
    obtain ⟨texts, calls⟩ := assistant_take first
    obtain ⟨moreTexts, moreCalls⟩ := ih later
    have split : part :: rest = [part] ++ rest := rfl
    constructor
    · rw [moreTexts, texts, split, assistantTexts_append, List.append_assoc]
    · rw [moreCalls, calls, split, assistantCalls_append, List.map_append, List.append_assoc]

def spoken (pending : List MessagePart) : List ChatTurn :=
  if pending = [] then [] else [.message "user" pending]

def blockContent (part : Json) : List MessagePart :=
  if partType part = "image" then [.image (imageUrl part)]
  else ((nonempty (part.str "text")).map MessagePart.text).toList

def resultTurn (codec : JsonCodec) (part : Json) : ChatTurn :=
  .tool ((part.str "tool_use_id").getD "")
    (claudeToolResultContentToText codec (part.get "content"))

def userTurns (codec : JsonCodec) (pending : List MessagePart) : List Json → List ChatTurn
  | [] => spoken pending
  | part :: rest =>
    if partType part = "tool_result" then
      spoken pending ++ resultTurn codec part :: userTurns codec [] rest
    else userTurns codec (pending ++ blockContent part) rest

structure UserParts.Holds (parts : UserParts) (turns : List ChatTurn) (pending : List MessagePart) :
    Prop where
  messages : parts.messages = turns.map ChatTurn.render
  contentParts : parts.contentParts = pending.map MessagePart.toJson
  structuredContent : parts.structuredContent = pending.any MessagePart.isImage

theorem UserParts.Holds.push {parts : UserParts} {turns : List ChatTurn}
    {pending : List MessagePart} (holds : parts.Holds turns pending) :
    parts.pushClaudeUserContentMessage.Holds (turns ++ spoken pending) [] := by
  unfold UserParts.pushClaudeUserContentMessage spoken
  by_cases empty : pending = []
  · have none : parts.contentParts = [] := by rw [holds.contentParts, empty, List.map_nil]
    rw [if_pos none, if_pos empty, List.append_nil]
    exact empty ▸ holds
  · have some : parts.contentParts ≠ [] := by
      rw [holds.contentParts]
      simpa using empty
    rw [if_neg some, if_neg empty]
    refine ⟨?_, rfl, rfl⟩
    rw [holds.messages, holds.contentParts, holds.structuredContent, List.map_append]
    rfl

theorem user_take {before after : UserParts} {part : Json} {turns : List ChatTurn}
    {pending : List MessagePart} (holds : before.Holds turns pending)
    (taken : before.take codec part = .ok after) :
    if partType part = "tool_result" then
      after.Holds (turns ++ spoken pending ++ [resultTurn codec part]) []
    else after.Holds turns (pending ++ blockContent part) := by
  unfold UserParts.take at taken
  split_ifs at taken with result image
  · obtain ⟨message, converted, rfl⟩ := Except.map_eq_ok.1 taken
    obtain ⟨id, foundId, rfl⟩ := toolResult_converted converted
    have pushed := holds.push
    rw [if_pos result]
    refine ⟨?_, pushed.contentParts, pushed.structuredContent⟩
    rw [List.map_append, pushed.messages]
    simp [resultTurn, foundId]
  · obtain ⟨content, converted, rfl⟩ := Except.map_eq_ok.1 taken
    have same := image_converted converted
    subst same
    rw [if_neg result]
    refine ⟨holds.messages, ?_, ?_⟩
    · simp [holds.contentParts, blockContent, image, MessagePart.toJson]
    · simp [blockContent, image, MessagePart.isImage]
  · cases taken
    rw [if_neg result]
    unfold UserParts.takeText
    cases told : nonempty (part.str "text") with
    | none => simpa [blockContent, image, told] using holds
    | some text =>
      refine ⟨holds.messages, ?_, ?_⟩
      · simp [holds.contentParts, blockContent, image, told, MessagePart.toJson]
      · simp [holds.structuredContent, blockContent, image, told, MessagePart.isImage]

theorem user_fold {before after : UserParts} {parts : List Json} {turns : List ChatTurn}
    {pending : List MessagePart} (holds : before.Holds turns pending)
    (taken : parts.foldlM (UserParts.take codec) before = .ok after) :
    after.pushClaudeUserContentMessage.messages =
      (turns ++ userTurns codec pending parts).map ChatTurn.render := by
  induction parts generalizing before turns pending with
  | nil =>
    cases taken
    exact holds.push.messages
  | cons part rest ih =>
    rw [List.foldlM_cons, Except.bind_eq_ok] at taken
    obtain ⟨middle, first, later⟩ := taken
    have next := user_take holds first
    rw [userTurns]
    split_ifs at next ⊢ with result
    · rw [ih next later]
      simp
    · exact ih next later

def userMessageTurns (codec : JsonCodec) (parts : List Json) : List ChatTurn :=
  if userTurns codec [] parts = [] then [.message "user" []] else userTurns codec [] parts

inductive TurnsOf (codec : JsonCodec) (message : Json) : List ChatTurn → Prop where
  | assistant (parts : List Json) (thinking : List ClaudeThinkingEntry)
      (blocks : messageBlocks "assistant" message = some parts) :
      TurnsOf codec message [.assistant (assistantTexts parts) (assistantCalls codec parts) thinking]
  | user (parts : List Json) (other : messageBlocks "assistant" message = none)
      (blocks : messageBlocks "user" message = some parts) :
      TurnsOf codec message (userMessageTurns codec parts)
  | plain (role : String) (other : messageBlocks "assistant" message = none)
      (another : messageBlocks "user" message = none) :
      TurnsOf codec message
        [.message role ((plainTexts (message.get "content")).map MessagePart.text)]

theorem render_texts (role : String) (texts : List String) :
    (ChatTurn.message role (texts.map MessagePart.text)).render =
      plainMessage role (joinLines texts) := by
  have none : (texts.map MessagePart.text).any MessagePart.isImage = false := by
    simp [MessagePart.isImage]
  have same : ((texts.map MessagePart.text).map MessagePart.toJson).filterMap (·.str "text") =
      texts := by
    simp [List.filterMap_map, Function.comp_def, MessagePart.toJson, textPart, Json.str,
      Json.asStr]
  rw [ChatTurn.render, none, same]
  rfl

theorem extractClaudeContentText_eq (message : Json) :
    extractClaudeContentText message = joinLines (plainTexts (message.get "content")) := by
  unfold extractClaudeContentText
  cases message.get "content" with
  | none => rfl
  | some content =>
    cases content with
    | object object =>
      simp only [plainTexts]
      cases (Json.field object "text").bind Json.asStr <;> rfl
    | _ => rfl

theorem messageBlocks_eq_none {message : Json} {role expected : String}
    (found : message.str "role" = some role)
    (other : ∀ parts, message.get "content" = some (.array parts) → role = expected → False) :
    messageBlocks expected message = none := by
  unfold messageBlocks
  split_ifs with same
  · have here : role = expected := Option.some_inj.1 (found.symm.trans same)
    cases content : message.get "content" with
    | none => rfl
    | some value =>
      cases value with
      | array parts => exact (other parts content here).elim
      | _ => rfl
  · rfl

theorem message_turns {message : Json} {result : List Json}
    (converted : claudeMessageToChatMessages codec message = .ok result) : ∃ turns,
      TurnsOf codec message turns ∧ result = turns.map ChatTurn.render := by
  unfold claudeMessageToChatMessages at converted
  split at converted
  · cases converted
  · next parts role content =>
    obtain ⟨final, folded, rfl⟩ := Except.map_eq_ok.1 converted
    obtain ⟨texts, calls⟩ := assistant_fold folded
    refine ⟨_, .assistant parts final.thinkingBlocks (by simp [messageBlocks, role, content,
      Json.asArray]), ?_⟩
    rw [List.map_singleton, ChatTurn.render, AssistantParts.message, AssistantParts.message, texts,
      calls]
    rfl
  · next parts role content =>
    obtain ⟨final, folded, rfl⟩ := Except.map_eq_ok.1 converted
    have messages := @user_fold codec {} final parts [] [] ⟨rfl, rfl, rfl⟩ folded
    refine ⟨_, .user parts (by simp [messageBlocks, role]) (by simp [messageBlocks, role, content,
      Json.asArray]), ?_⟩
    rw [UserParts.allMessages, messages, List.nil_append, userMessageTurns]
    by_cases empty : userTurns codec [] parts = []
    · simp [empty, ChatTurn.render, joinLines]
    · simp [empty]
  · next role found notAssistant notUser =>
    cases converted
    refine ⟨_, .plain role (messageBlocks_eq_none found notAssistant)
      (messageBlocks_eq_none found notUser), ?_⟩
    rw [List.map_singleton, render_texts, extractClaudeContentText_eq]

theorem ofKind_append (kind : PieceKind) (first second : List HistoryPiece) :
    ofKind kind (first ++ second) = ofKind kind first ++ ofKind kind second :=
  List.filter_append ..

def saidPieces (texts : List String) : List HistoryPiece :=
  texts.flatMap fun text => textPieces (some text)

def callPieces (codec : JsonCodec) (calls : List ChatCall) : List HistoryPiece :=
  calls.map fun call => .call call.id call.name (readArguments codec call.arguments)

theorem ofKind_said {kind : PieceKind} (other : kind ≠ .text) (texts : List String) :
    ofKind kind (saidPieces texts) = [] := by
  refine List.filter_eq_nil_iff.2 fun piece member => ?_
  obtain ⟨text, -, found⟩ := List.mem_flatMap.1 member
  obtain ⟨said, -, rfl⟩ := Option.map_eq_some_iff.1 (Option.mem_toList.1 found)
  intro same
  exact other (of_decide_eq_true same).symm

theorem ofKind_calls {kind : PieceKind} (other : kind ≠ .call) (calls : List ChatCall) :
    ofKind kind (callPieces codec calls) = [] := by
  refine List.filter_eq_nil_iff.2 fun piece member => ?_
  obtain ⟨call, -, rfl⟩ := List.mem_map.1 member
  intro same
  exact other (of_decide_eq_true same).symm

theorem ofKind_exchange (kind : PieceKind) (texts : List String) (calls : List ChatCall) :
    ofKind kind (saidPieces texts) ++ ofKind kind (callPieces codec calls) =
      ofKind kind (callPieces codec calls) ++ ofKind kind (saidPieces texts) := by
  by_cases text : kind = .text
  · rw [ofKind_calls (by simp [text]), List.append_nil, List.nil_append]
  · rw [ofKind_said text, List.append_nil, List.nil_append]

def ReadsInput (codec : JsonCodec) (part : Json) : Prop :=
  partType part = "tool_use" → ∀ input, part.get "input" = some input →
    (∀ text, input ≠ .string text) → codec.readStream (codec.print input) = [some input]

theorem readArguments_toolUse {part : Json} (isCall : partType part = "tool_use")
    (reads : ReadsInput codec part) :
    readArguments codec (toolUseArguments codec (part.get "input")) = toolInput codec part := by
  unfold toolInput
  cases found : part.get "input" with
  | none => rfl
  | some input =>
    have read := reads isCall input found
    cases input with
    | string text => rfl
    | _ => simp [toolUseArguments, readArguments, read]

theorem pieces_block {part : Json} (reads : ReadsInput codec part) :
    saidPieces (assistantTexts [part]) ++ callPieces codec (assistantCalls codec [part]) =
      assistantPieces codec part := by
  unfold assistantPieces
  split_ifs with thinking toolUse
  · simp [assistantTexts, assistantCalls, saidPieces, callPieces, thinking]
  · simp [assistantTexts, assistantCalls, saidPieces, callPieces, callOf, toolUse,
      readArguments_toolUse toolUse reads]
  · cases told : nonempty (part.str "text") with
    | none => simp [assistantTexts, assistantCalls, saidPieces, callPieces, thinking, toolUse, told,
        textPieces]
    | some text =>
      have filled : nonempty (some text) = some text := by
        obtain ⟨-, filled⟩ := Option.filter_eq_some_iff.1 told
        simpa [nonempty] using filled
      simp [assistantTexts, assistantCalls, saidPieces, callPieces, thinking, toolUse, told, filled,
        textPieces]

theorem pieces_assistant (kind : PieceKind) {parts : List Json}
    (reads : ∀ part ∈ parts, ReadsInput codec part) :
    ofKind kind (saidPieces (assistantTexts parts) ++
        callPieces codec (assistantCalls codec parts)) =
      ofKind kind (parts.flatMap (assistantPieces codec)) := by
  induction parts with
  | nil => rfl
  | cons part rest ih =>
    have own := pieces_block (reads part (List.mem_cons_self ..))
    have later := ih fun other member => reads other (List.mem_cons_of_mem _ member)
    have split : part :: rest = [part] ++ rest := rfl
    have texts : saidPieces (assistantTexts (part :: rest)) =
        saidPieces (assistantTexts [part]) ++ saidPieces (assistantTexts rest) := by
      rw [split, assistantTexts_append, saidPieces, List.flatMap_append]
      rfl
    have calls : callPieces codec (assistantCalls codec (part :: rest)) =
        callPieces codec (assistantCalls codec [part]) ++
          callPieces codec (assistantCalls codec rest) := by
      rw [split, assistantCalls_append, callPieces, List.map_append]
      rfl
    rw [List.flatMap_cons, ofKind_append kind (assistantPieces codec part), ← own, ← later, texts,
      calls]
    -- The calls of the first block stand behind the texts of the others.
    have exchanged := @ofKind_exchange codec kind (assistantTexts rest) (assistantCalls codec [part])
    simp only [ofKind_append, List.append_assoc]
    rw [← List.append_assoc (ofKind kind (saidPieces (assistantTexts rest))), exchanged,
      List.append_assoc]

theorem pieces_spoken (pending : List MessagePart) :
    (spoken pending).flatMap (ChatTurn.pieces codec) = pending.flatMap MessagePart.pieces := by
  unfold spoken
  split_ifs with empty
  · simp [empty]
  · simp [ChatTurn.pieces]

theorem pieces_content {part : Json} (other : partType part ≠ "tool_result") :
    (blockContent part).flatMap MessagePart.pieces = userPieces codec part := by
  unfold blockContent userPieces
  rw [if_neg other]
  split_ifs with image
  · rfl
  · cases told : nonempty (part.str "text") with
    | none => simp [textPieces, told]
    | some text =>
      obtain ⟨-, filled⟩ := Option.filter_eq_some_iff.1 told
      have again : nonempty (some text) = some text := by simpa [nonempty] using filled
      simp [textPieces, told, again, MessagePart.pieces]

theorem pieces_userTurns (pending : List MessagePart) (parts : List Json) :
    (userTurns codec pending parts).flatMap (ChatTurn.pieces codec) =
      pending.flatMap MessagePart.pieces ++ parts.flatMap (userPieces codec) := by
  induction parts generalizing pending with
  | nil => simp [userTurns, pieces_spoken]
  | cons part rest ih =>
    rw [userTurns, List.flatMap_cons]
    split_ifs with result
    · rw [List.flatMap_append, pieces_spoken, List.flatMap_cons, ih]
      simp [resultTurn, ChatTurn.pieces, userPieces, result]
    · rw [ih, List.flatMap_append, pieces_content result, List.append_assoc]

theorem pieces_turnsOf {message : Json} {turns : List ChatTurn} (of : TurnsOf codec message turns)
    (reads : ∀ parts, messageBlocks "assistant" message = some parts →
      ∀ part ∈ parts, ReadsInput codec part) (kind : PieceKind) :
    ofKind kind (turns.flatMap (ChatTurn.pieces codec)) =
      ofKind kind (messagePieces codec message) := by
  cases of with
  | assistant parts thinking blocks =>
    rw [messagePieces, blocks, List.flatMap_singleton]
    exact pieces_assistant kind (reads parts blocks)
  | user parts other blocks =>
    rw [messagePieces, other, blocks, userMessageTurns]
    have same := @pieces_userTurns codec [] parts
    split_ifs with empty
    · rw [empty] at same
      exact congrArg (ofKind kind) same
    · rw [same]
      rfl
  | plain role other another =>
    rw [messagePieces, other, another]
    simp [ChatTurn.pieces, List.flatMap_map, MessagePart.pieces]

end Messages

end ChatGateway
