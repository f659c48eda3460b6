import ChatGateway.Shared.Json
import ChatGateway.Stream.SseDecoder

set_option autoImplicit false

/-!
# Tool names

A client's tools are declared to the upstream under names of the gateway's own choice. The registry
maps an identity to the name used upstream and back.
-/

namespace ChatGateway

inductive ToolKind where
  | function
  | custom
  | namespaceMember
deriving DecidableEq, Repr

structure ToolIdentity where
  kind : ToolKind
  group : Option String
  name : String
deriving DecidableEq, Repr

namespace ToolIdentity

def function (name : String) : ToolIdentity :=
  { kind := .function, group := none, name }

def namespaceMember (group name : String) : ToolIdentity :=
  { kind := .namespaceMember, group := some group, name }

def custom (group : Option String) (name : String) : ToolIdentity :=
  { kind := .custom, group, name }

end ToolIdentity

structure ToolMapping where
  identity : ToolIdentity
  upstreamName : String
deriving DecidableEq, Repr

structure ToolAdapterRegistry where
  mappings : List ToolMapping := []
deriving DecidableEq, Repr

namespace ToolAdapterRegistry

def upstreamName (registry : ToolAdapterRegistry) (identity : ToolIdentity) : Option String :=
  (registry.mappings.find? fun mapping => mapping.identity = identity).map (·.upstreamName)

def identity (registry : ToolAdapterRegistry) (upstreamName : String) : Option ToolIdentity :=
  (registry.mappings.find? fun mapping => mapping.upstreamName = upstreamName).map (·.identity)

def restoreStreamedCallName (registry : ToolAdapterRegistry) (upstreamName : String) :
    Except ProtocolError ToolIdentity :=
  match registry.identity upstreamName with
  | some identity => .ok identity
  | none => .error (.invalidPayload ("unknown upstream tool name: " ++ upstreamName))

end ToolAdapterRegistry

def responseChatToolName (object : List (String × Json)) (originalName : String)
    (toolRegistry : Option ToolAdapterRegistry) : String :=
  match toolRegistry with
  | none => originalName
  | some registry =>
    let group := ((Json.field object "namespace").bind Json.asStr).filter fun group => group ≠ ""
    let identity :=
      if (Json.field object "type").bind Json.asStr = some "custom_tool_call" then
        ToolIdentity.custom group originalName
      else
        match group with
        | some group => ToolIdentity.namespaceMember group originalName
        | none => ToolIdentity.function originalName
    (registry.upstreamName identity).getD originalName

end ChatGateway
