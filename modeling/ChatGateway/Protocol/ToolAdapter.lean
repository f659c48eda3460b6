import Mathlib.Data.List.Destutter
import Mathlib.Data.Prod.Lex
import Mathlib.Data.String.Basic
import Mathlib.Order.WithBot
import ChatGateway.Protocol.ResponsesToChat

set_option autoImplicit false

/-!
# The tool adapter

A functions-only upstream is offered every tool of the client as a plain function. The adapter
flattens the declarations, gives each tool a name of its own and translates calls in both directions.
-/

namespace ChatGateway

inductive ToolTarget where
  | nativeResponses
  | restrictedResponses
  | functionsOnly
deriving DecidableEq, Repr

inductive ToolPolicyDecision where
  | keep
  | dropOptional (downgrade : String)
  | reject (category : String)
deriving DecidableEq, Repr

def hostedToolDecision (kind : String) (routeSupportsKind explicitlySelected : Bool)
    (executableToolCountAfterDrop : Nat) : ToolPolicyDecision :=
  if kind ∉ ["web_search", "file_search", "computer_use"] then
    .reject "gateway_protocol_capability_unsupported"
  else if routeSupportsKind then .keep
  else if explicitlySelected || executableToolCountAfterDrop = 0 then
    .reject "gateway_protocol_capability_unsupported"
  else .dropOptional ("optional_tool:" ++ kind)

structure Sha256 where
  hex : List UInt8 → Text
  hex_length : ∀ bytes, (hex bytes).length = 64

def isNameSeparator (letter : Char) : Bool :=
  letter = '_' || letter = '-'

-- The flag says that the letter before was replaced too.
def sanitizeChars : Bool → Text → Text
  | _, [] => []
  | lastWasSeparator, letter :: rest =>
    if letter.isAlphanum || isNameSeparator letter then letter :: sanitizeChars false rest
    else if lastWasSeparator then sanitizeChars true rest
    else '_' :: sanitizeChars true rest

def trimEndMatches (mark : Char → Bool) (text : Text) : Text :=
  (text.reverse.dropWhile mark).reverse

def sanitizeMiddle (identity : ToolIdentity) : Text :=
  let raw :=
    match identity.group with
    | some group => group.toList ++ "__".toList ++ identity.name.toList
    | none => identity.name.toList
  let trimmed := trimEndMatches isNameSeparator ((sanitizeChars false raw).dropWhile isNameSeparator)
  if trimmed.isEmpty then "tool".toList else trimmed

def identityBytes (identity : ToolIdentity) : List UInt8 :=
  let kind :=
    match identity.kind with
    | .function => "function"
    | .custom => "custom"
    | .namespaceMember => "namespace_member"
  Text.utf8 kind.toList ++ [0] ++ Text.utf8 (identity.group.getD "").toList ++ [0] ++
    Text.utf8 identity.name.toList

section Names

variable (sha256 : Sha256)

def nameCandidate (identity : ToolIdentity) (suffixLen : Nat) : String :=
  let suffix := (sha256.hex (identityBytes identity)).take suffixLen
  let maxMiddleLen := 64 - (4 + suffix.length)
  let sanitized := sanitizeMiddle identity
  let middle :=
    if maxMiddleLen < sanitized.length then
      let cut := trimEndMatches isNameSeparator (sanitized.take maxMiddleLen)
      if cut.isEmpty then "tool".toList else cut
    else sanitized
  String.ofList ("gw_".toList ++ middle ++ ['_'] ++ suffix)

def generatedNameFrom (identity : ToolIdentity) (occupied : List String) : Nat → Nat → String
  | 0, suffixLen => nameCandidate sha256 identity suffixLen
  | steps + 1, suffixLen =>
    let candidate := nameCandidate sha256 identity suffixLen
    if candidate ∉ occupied || 56 ≤ suffixLen then candidate
    else generatedNameFrom identity occupied steps (min (suffixLen + 4) 56)

-- Eleven steps of four digits lead from the shortest suffix to the longest.
def generatedName (identity : ToolIdentity) (digestLen : Nat) (occupied : List String) : String :=
  generatedNameFrom sha256 identity occupied 11 (min (max digestLen 12) 56)

def suffixLengths : List Nat :=
  [12, 16, 20, 24, 28, 32, 36, 40, 44, 48, 52, 56]

def preservesOriginal (identity : ToolIdentity) (occupied : List String) : Bool :=
  (identity.kind = .function || identity.kind = .custom) && identity.name ∉ occupied

def assignedUpstreamName (identity : ToolIdentity) (occupied : List String) :
    Except ProtocolError String :=
  if preservesOriginal identity occupied then .ok identity.name
  else
    match (suffixLengths.map (generatedName sha256 identity · occupied)).find? (· ∉ occupied) with
    | some candidate => .ok candidate
    | none =>
      .error (.invalidPayload ("tool name collision could not be resolved for " ++ identity.name))

def kindRank : ToolKind → Nat
  | .function => 0
  | .custom => 1
  | .namespaceMember => 2

def canonicalSortKey (identity : ToolIdentity) : Nat ×ₗ WithBot String ×ₗ String :=
  toLex (kindRank identity.kind,
    toLex ((identity.group : Option String), identity.name))

def canonicalOrder (identities : List ToolIdentity) : List ToolIdentity :=
  (identities.insertionSort fun left right => canonicalSortKey left ≤ canonicalSortKey right).destutter
    (· ≠ ·)

-- The occupied names are those of the mappings made so far.
def assignNames : List ToolIdentity → List ToolMapping → Except ProtocolError (List ToolMapping)
  | [], mappings => .ok mappings
  | identity :: rest, mappings =>
    match assignedUpstreamName sha256 identity (mappings.map (·.upstreamName)) with
    | .error error => .error error
    | .ok upstreamName => assignNames rest (mappings ++ [{ identity, upstreamName }])

end Names

structure ToolAdaptation where
  upstreamTools : List Json
  registry : ToolAdapterRegistry
  downgrades : List String

structure ToolDeclarations where
  identities : List ToolIdentity := []
  flattenedIdentities : List ToolIdentity := []
  flattenedTools : List Json := []
  downgrades : List String := []

def ToolDeclarations.declare (declarations : ToolDeclarations) (target : ToolTarget)
    (identity : ToolIdentity) (tool : Json) : ToolDeclarations :=
  let known := { declarations with identities := declarations.identities ++ [identity] }
  if target = .nativeResponses then known
  else { known with
    flattenedIdentities := known.flattenedIdentities ++ [identity]
    flattenedTools := known.flattenedTools ++ [tool] }

def prefixDescription (groupDescription memberDescription : Option String) : Option String :=
  match groupDescription, memberDescription with
  | some group, some member => if member ≠ "" then some (group ++ ": " ++ member) else none
  | some group, none => if group ≠ "" then some group else none
  | none, some member => if member ≠ "" then some member else none
  | none, none => none

def optionalField (name : String) (value : Option Json) : List (String × Json) :=
  (value.map fun value => (name, value)).toList

def chatFunctionTool (name : String) (description : Option String) (parameters : Option Json) :
    Json :=
  .object
    [("type", .string "function"),
      ("function", .object ([("name", .string name)] ++
        optionalField "description" (description.map Json.string) ++
        optionalField "parameters" parameters))]

def customInputTool (name : String) (description : Option String) : Json :=
  chatFunctionTool name description
    (some (.object
      [("type", .string "object"),
        ("properties", .object [("input", .object [("type", .string "string")])]),
        ("required", .array [.string "input"]), ("additionalProperties", .bool false)]))

section Declarations

variable (codec : JsonCodec)

def parseFunctionDefinition (tool : Json) :
    Except ProtocolError (String × Option String × Option Json) :=
  match tool.asObject with
  | none => .error (.invalidPayload ("unsupported tool definition: " ++ codec.print tool))
  | some object =>
    let outerDescription := (Json.field object "description").bind Json.asStr
    match (Json.field object "function").bind Json.asObject with
    | some function =>
      match (Json.field function "name").bind Json.asStr with
      | none => .error (.missingField "name")
      | some name =>
        .ok (name, ((Json.field function "description").bind Json.asStr).or outerDescription,
          Json.field function "parameters")
    | none =>
      match (Json.field object "name").bind Json.asStr with
      | none => .error (.missingField "name")
      | some name => .ok (name, outerDescription, Json.field object "parameters")

def parseNamespaceMember (target : ToolTarget) (group : String) (groupDescription : Option String)
    (declarations : ToolDeclarations) (member : Json) : Except ProtocolError ToolDeclarations :=
  match member.asObject with
  | none => .error (.invalidPayload ("unsupported namespace member: " ++ codec.print member))
  | some object =>
    match ((Json.field object "type").bind Json.asStr).getD "function" with
    | "function" =>
      match parseFunctionDefinition codec member with
      | .error error => .error error
      | .ok (name, description, parameters) =>
        .ok (declarations.declare target (.namespaceMember group name)
          (chatFunctionTool name (prefixDescription groupDescription description) parameters))
    | "custom" =>
      match (Json.field object "name").bind Json.asStr with
      | none => .error (.missingField "name")
      | some name =>
        let description := (Json.field object "description").bind Json.asStr
        .ok (declarations.declare target (.custom (some group) name)
          (customInputTool name (prefixDescription groupDescription description)))
    | other => .error (.invalidPayload ("unsupported namespace member type: " ++ other))

def parseNamespaceTool (target : ToolTarget) (declarations : ToolDeclarations) (tool : Json) :
    Except ProtocolError ToolDeclarations :=
  match tool.asObject with
  | none => .error (.invalidPayload ("unsupported namespace tool: " ++ codec.print tool))
  | some object =>
    match (Json.field object "name").bind Json.asStr with
    | none => .error (.missingField "name")
    | some group =>
      match (Json.field object "tools").bind Json.asArray with
      | none => .error (.missingField "tools")
      | some members =>
        members.foldlM
          (parseNamespaceMember codec target group
            ((Json.field object "description").bind Json.asStr))
          declarations

def parseHostedTool (target : ToolTarget) (declarations : ToolDeclarations) (kind : String)
    (tool : Json) : Except ProtocolError ToolDeclarations :=
  match hostedToolDecision kind (target = .nativeResponses) false 0 with
  | .keep =>
    .ok (if target = .nativeResponses then declarations
      else { declarations with flattenedTools := declarations.flattenedTools ++ [tool] })
  | .dropOptional downgrade =>
    .ok { declarations with downgrades := declarations.downgrades ++ [downgrade] }
  | .reject category =>
    .error (.invalidPayload (category ++ ": hosted tool " ++ kind ++ " is not supported"))

def parseTool (target : ToolTarget) (declarations : ToolDeclarations) (tool : Json) :
    Except ProtocolError ToolDeclarations :=
  match tool.asObject with
  | none => .error (.invalidPayload ("unsupported tool definition: " ++ codec.print tool))
  | some object =>
    match ((Json.field object "type").bind Json.asStr).getD "function" with
    | "function" =>
      match parseFunctionDefinition codec tool with
      | .error error => .error error
      | .ok (name, description, parameters) =>
        .ok (declarations.declare target (.function name)
          (chatFunctionTool name description parameters))
    | "custom" =>
      match (Json.field object "name").bind Json.asStr with
      | none => .error (.missingField "name")
      | some name =>
        .ok (declarations.declare target
          (.custom ((Json.field object "namespace").bind Json.asStr) name)
          (customInputTool name ((Json.field object "description").bind Json.asStr)))
    | "namespace" => parseNamespaceTool codec target declarations tool
    | "web_search" => parseHostedTool target declarations "web_search" tool
    | "file_search" => parseHostedTool target declarations "file_search" tool
    | "computer_use" => parseHostedTool target declarations "computer_use" tool
    | other => .error (.invalidPayload ("unsupported tool type: " ++ other))

def parseTools (target : ToolTarget) (tools : List Json) : Except ProtocolError ToolDeclarations :=
  tools.foldlM (parseTool codec target) {}

end Declarations

namespace ToolAdapterRegistry

def fromIdentities (sha256 : Sha256) (identities : List ToolIdentity) :
    Except ProtocolError ToolAdapterRegistry :=
  (assignNames sha256 (canonicalOrder identities) []).map fun mappings => { mappings }

-- A declaration without a function object, or of a tool the registry does not know, is left alone.
def nameTool (registry : ToolAdapterRegistry) (identity : ToolIdentity) (tool : Json) : Json :=
  match tool.asObject with
  | none => tool
  | some object =>
    match (Json.field object "function").bind Json.asObject, registry.upstreamName identity with
    | some function, some upstreamName =>
      .object (Json.setField object "function"
        (.object (Json.setField function "name" (.string upstreamName))))
    | _, _ => tool

def nameTools (registry : ToolAdapterRegistry) : List ToolIdentity → List Json → List Json
  | identity :: identities, tool :: tools =>
    registry.nameTool identity tool :: nameTools registry identities tools
  | _, tools => tools

def build (codec : JsonCodec) (sha256 : Sha256) (tools : Json) (target : ToolTarget) :
    Except ProtocolError ToolAdaptation :=
  match tools.asArray with
  | none => .error (.invalidPayload ("unsupported tool list: " ++ codec.print tools))
  | some array =>
    match parseTools codec target array with
    | .error error => .error error
    | .ok declarations =>
      match fromIdentities sha256 declarations.identities with
      | .error error => .error error
      | .ok registry =>
        .ok {
          upstreamTools :=
            if target = .nativeResponses then array
            else registry.nameTools declarations.flattenedIdentities declarations.flattenedTools
          registry
          downgrades := declarations.downgrades }

def toolChoiceName (object : List (String × Json)) : Option String :=
  ((((Json.field object "function").bind Json.asObject).bind (Json.field · "name")).or
    (Json.field object "name")).bind Json.asStr

def setToolChoiceName (object : List (String × Json)) (name : String) : List (String × Json) :=
  match (Json.field object "function").bind Json.asObject with
  | some function =>
    Json.setField object "function" (.object (Json.setField function "name" (.string name)))
  | none => Json.setField object "name" (.string name)

def adaptToolChoice (codec : JsonCodec) (registry : ToolAdapterRegistry) (choice : Json) :
    Except ProtocolError Json :=
  match choice with
  | .string name => .ok (.string name)
  | .object object =>
    match ((toolChoiceName object).bind registry.identity).bind registry.upstreamName with
    | some upstreamName => .ok (.object (setToolChoiceName object upstreamName))
    | none => .ok (.object object)
  | other => .error (.invalidPayload ("unsupported tool_choice value: " ++ codec.print other))

def adaptResponsesFunctionCall (codec : JsonCodec) (registry : ToolAdapterRegistry) (call : Json)
    (strict : Bool) : Except ProtocolError Json :=
  match call.asObject with
  | none => .error (.invalidPayload "unsupported Responses function call")
  | some object =>
    match (Json.field object "type").bind Json.asStr with
    | none => .error (.missingField "type")
    | some callType =>
      match (Json.field object "name").bind Json.asStr with
      | none => .error (.missingField "name")
      | some name =>
        match ((Json.field object "call_id").or (Json.field object "id")).bind Json.asStr with
        | none => .error (.missingField "call_id")
        | some callId =>
          let group := ((Json.field object "namespace").bind Json.asStr).filter (· ≠ "")
          match callType with
          | "function_call" =>
            let identity :=
              match group with
              | some group => ToolIdentity.namespaceMember group name
              | none => ToolIdentity.function name
            let rawArguments := ((Json.field object "arguments").bind Json.asStr).getD "\x7b\x7d"
            match normalizeToolArgumentsForRequest codec rawArguments strict callId with
            | .error error => .error error
            | .ok arguments =>
              .ok (chatToolCall callId ((registry.upstreamName identity).getD name) arguments)
          | "custom_tool_call" =>
            match (Json.field object "input").bind Json.asStr with
            | none => .error (.missingField "input")
            | some input =>
              .ok (chatToolCall callId ((registry.upstreamName (.custom group name)).getD name)
                (codec.print (.object [("input", .string input)])))
          | _ => .error (.invalidPayload "unsupported Responses function call type")

def extractCallDetails (object : List (String × Json)) : Except ProtocolError (String × String) :=
  let details := ((Json.field object "function").bind Json.asObject).getD object
  match (Json.field details "name").bind Json.asStr with
  | none => .error (.missingField "name")
  | some name => .ok (name, ((Json.field details "arguments").bind Json.asStr).getD "")

-- The message of the JSON library is not modelled.
def extractCustomInput (codec : JsonCodec) (arguments : String) : Except ProtocolError String :=
  match codec.readStream arguments with
  | [some value] =>
    match value.str "input" with
    | some input => .ok input
    | none => .error (.missingField "input")
  | _ => .error (.invalidPayload "invalid custom tool arguments")

def restoredCall (callType callId name : String) (group payload : List (String × Json))
    (status : Json) : Json :=
  .object ([("type", .string callType), ("id", .string callId), ("call_id", .string callId),
    ("name", .string name)] ++ group ++ payload ++ [("status", status)])

def groupField (identity : ToolIdentity) : List (String × Json) :=
  [("namespace", (identity.group.map Json.string).getD .null)]

def restoreFunctionCall (codec : JsonCodec) (registry : ToolAdapterRegistry) (call : Json) :
    Except ProtocolError Json :=
  match call.asObject with
  | none => .error (.invalidPayload ("unsupported function call: " ++ codec.print call))
  | some object =>
    match extractCallDetails object with
    | .error error => .error error
    | .ok (upstreamName, arguments) =>
      let callId := (((Json.field object "id").or (Json.field object "call_id")).bind
        Json.asStr).getD upstreamName
      let status := (Json.field object "status").getD (.string "completed")
      let payload := [("arguments", Json.string arguments)]
      match registry.identity upstreamName with
      | none => .ok (restoredCall "function_call" callId upstreamName [] payload status)
      | some identity =>
        match identity.kind with
        | .function => .ok (restoredCall "function_call" callId identity.name [] payload status)
        | .namespaceMember =>
          .ok (restoredCall "function_call" callId identity.name (groupField identity) payload
            status)
        | .custom =>
          match extractCustomInput codec arguments with
          | .error error => .error error
          | .ok input =>
            .ok (restoredCall "custom_tool_call" callId identity.name (groupField identity)
              [("input", .string input)] status)

end ToolAdapterRegistry

end ChatGateway
