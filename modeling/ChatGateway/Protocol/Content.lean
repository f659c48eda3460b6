import ChatGateway.Protocol.ToolRegistry

set_option autoImplicit false

/-!
# Message content

How the content of Responses output items is read as Chat content.
-/

namespace ChatGateway

/-- The JSON library the gateway reads and writes text with: printing a value, the way a character
is written inside a string, and the values a text holds one after another, where `none` stands for
the error that ends the reading. -/
structure JsonCodec where
  print : Json → String
  escape : Char → Text
  readStream : String → List (Option Json)

def JsonCodec.quote (codec : JsonCodec) (value : String) : String :=
  String.ofList ('"' :: value.toList.flatMap codec.escape ++ ['"'])

/-- How `serde_json` writes a character of a string. -/
def serdeEscape (char : Char) : Text :=
  if char = '"' then ['\\', '"']
  else if char = '\\' then ['\\', '\\']
  else if char = '\n' then ['\\', 'n']
  else if char = '\r' then ['\\', 'r']
  else if char = '\t' then ['\\', 't']
  else if char.toNat = 8 then ['\\', 'b']
  else if char.toNat = 12 then ['\\', 'f']
  else if char.toNat < 32 then
    ['\\', 'u', '0', '0', Nat.digitChar (char.toNat / 16), Nat.digitChar (char.toNat % 16)]
  else [char]

def serdeQuote (value : String) : Text :=
  '"' :: value.toList.flatMap serdeEscape ++ ['"']

mutual

def serdePrint : Json → Text
  | .null => "null".toList
  | .bool value => (toString value).toList
  | .number (.natural value) => (toString value).toList
  | .number (.negative value) => '-' :: (toString value).toList
  | .number (.float text) => text.toList
  | .string value => serdeQuote value
  | .array items => '[' :: serdePrintItems items ++ [']']
  | .object fields => '\x7b' :: serdePrintFields fields ++ ['\x7d']

def serdePrintItems : List Json → Text
  | [] => []
  | [item] => serdePrint item
  | item :: next :: rest => serdePrint item ++ ',' :: serdePrintItems (next :: rest)

def serdePrintFields : List (String × Json) → Text
  | [] => []
  | [(name, value)] => serdeQuote name ++ ':' :: serdePrint value
  | (name, value) :: next :: rest =>
    serdeQuote name ++ ':' :: serdePrint value ++ ',' :: serdePrintFields (next :: rest)

end

def serdeCodec (readStream : String → List (Option Json)) : JsonCodec where
  print value := String.ofList (serdePrint value)
  escape := serdeEscape
  readStream

inductive ImageSource where
  | httpsUrl (url : String)
  | dataUrl (url : String)
deriving DecidableEq, Repr

/-- The text behind the first occurrence of `mark`, and the text before it. -/
def splitOnceAt (mark : Text) : Text → Option (Text × Text)
  | [] => if mark = [] then some ([], []) else none
  | head :: rest =>
    match (head :: rest).dropPrefix? mark with
    | some behind => some ([], behind)
    | none => (splitOnceAt mark rest).map fun parts => (head :: parts.1, parts.2)

def parseDataUrl (value : String) : Except ProtocolError (Text × Text) :=
  match value.toList.dropPrefix? "data:".toList with
  | none => .error .unsupportedImageSource
  | some rest =>
    match splitOnceAt ";base64,".toList rest with
    | none => .error .unsupportedImageSource
    | some (media, data) =>
      if !("image/".toList.isPrefixOf media) || data.isEmpty then
        .error .unsupportedImageSource
      else .ok (media, data)

def classifyUrl (value : String) : Except ProtocolError ImageSource :=
  if "https://".toList.isPrefixOf value.toList then .ok (.httpsUrl value)
  else if "data:".toList.isPrefixOf value.toList then
    match parseDataUrl value with
    | .error error => .error error
    | .ok _ => .ok (.dataUrl value)
  else .error .unsupportedImageSource

def emitChatImage (source : ImageSource) (detail : Option String) : Json :=
  let url :=
    match source with
    | .httpsUrl url => url
    | .dataUrl url => url
  let nested := ("url", Json.string url) ::
    (match detail with
    | some detail => [("detail", Json.string detail)]
    | none => [])
  .object [("type", .string "image_url"), ("image_url", .object nested)]

def responsesImageToChatPart (part : Json) : Except ProtocolError Json :=
  match part.str "image_url" with
  | none => .error (.missingField "image_url")
  | some url =>
    match classifyUrl url with
    | .error error => .error error
    | .ok source => .ok (emitChatImage source (part.str "detail"))

def imageUrlString (object : List (String × Json)) : Option String :=
  let direct :=
    match Json.field object "image_url" with
    | some (.string url) => some url
    | some (.object image) => (Json.field image "url").bind Json.asStr
    | _ => none
  direct.or ((Json.field object "url").bind Json.asStr)

section Content

variable (codec : JsonCodec)

def responsesContentPartToChatContentPart (part : Json) : Except ProtocolError Json :=
  match part with
  | .string text => .ok (.object [("type", .string "text"), ("text", .string text)])
  | .object object =>
    match (Json.field object "text").bind Json.asStr with
    | some text => .ok (.object [("type", .string "text"), ("text", .string text)])
    | none =>
      if (imageUrlString object).isSome then responsesImageToChatPart (.object object)
      else
        .error (.invalidPayload ("unsupported responses content part: " ++ codec.print part))
  | _ => .error (.invalidPayload ("unsupported responses content part: " ++ codec.print part))

def chatTextPartText (value : Json) : Option String :=
  if value.str "type" = some "text" then value.str "text" else none

def responsesContentToChatContent (content : Json) : Except ProtocolError Json :=
  match content with
  | .null => .ok .null
  | .string text => .ok (.string text)
  | .array parts =>
    match parts.mapM (responsesContentPartToChatContentPart codec) with
    | .error error => .error error
    | .ok converted =>
      if converted.all fun part => (chatTextPartText part).isSome then
        .ok (.string ((converted.filterMap chatTextPartText).foldl (· ++ ·) ""))
      else .ok (.array converted)
  | other => .error (.invalidPayload ("unsupported responses content: " ++ codec.print other))

end Content

mutual

def agentMessageContainsEncryptedContent : Json → Bool
  | .array values => anyEncryptedContent values
  | .object object =>
    (Json.field object "type").bind Json.asStr = some "encrypted_content" ||
      (Json.field object "encrypted_content").any (fun value => !value.isNull) ||
      contentEncrypted object
  | _ => false

def anyEncryptedContent : List Json → Bool
  | [] => false
  | value :: rest => agentMessageContainsEncryptedContent value || anyEncryptedContent rest

-- The `content` field of an object.
def contentEncrypted : List (String × Json) → Bool
  | [] => false
  | (name, value) :: rest =>
    if name = "content" then agentMessageContainsEncryptedContent value
    else contentEncrypted rest

end

def inputText (text : String) : Json :=
  .object [("type", .string "input_text"), ("text", .string text)]

mutual

def agentMessageContentPart : Json → List Json
  | .string text => [inputText text]
  | .object object =>
    match (Json.field object "text").bind Json.asStr with
    | some text => [inputText text]
    | none => agentMessageNestedContent object
  | _ => []

def agentMessageContentParts : List Json → List Json
  | [] => []
  | part :: rest => agentMessageContentPart part ++ agentMessageContentParts rest

-- The `content` field of a part without text of its own.
def agentMessageNestedContent : List (String × Json) → List Json
  | [] => []
  | (name, value) :: rest =>
    if name = "content" then
      match value with
      | .array nested => agentMessageContentParts nested
      | nested => agentMessageContentPart nested
    else agentMessageNestedContent rest

end

def agentMessageObjectToChatMessage (codec : JsonCodec) (object : List (String × Json)) :
    Except ProtocolError Json :=
  if agentMessageContainsEncryptedContent (.object object) then
    .error .encryptedAgentMessageUnsupported
  else
    let contentParts :=
      (match Json.field object "content" with
      | some (.array parts) => agentMessageContentParts parts
      | some (.string text) => [inputText text]
      | some .null => []
      | none => []
      | some content => agentMessageContentPart content) ++
      (match (Json.field object "text").bind Json.asStr with
      | some text => [inputText text]
      | none => [])
    match responsesContentToChatContent codec (.array contentParts) with
    | .error error => .error error
    | .ok content => .ok (.object [("role", .string "assistant"), ("content", content)])

mutual

def visibleChatContentText : Json → String
  | .string text => text
  | .array parts => visibleChatContentTexts parts
  | .object object =>
    match (Json.field object "text").bind Json.asStr with
    | some text => text
    | none => visibleNestedContentText object
  | _ => ""

def visibleChatContentTexts : List Json → String
  | [] => ""
  | part :: rest => visibleChatContentText part ++ visibleChatContentTexts rest

-- The `content` field of an object without text of its own.
def visibleNestedContentText : List (String × Json) → String
  | [] => ""
  | (name, value) :: rest =>
    if name = "content" then visibleChatContentText value else visibleNestedContentText rest

end

end ChatGateway
