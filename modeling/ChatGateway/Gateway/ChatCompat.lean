import ChatGateway.Capabilities.Resolver
import ChatGateway.Shared.Text

set_option autoImplicit false

/-!
# Chat bodies for an upstream

What the gateway removes from, renames in and adds to a Chat request: first what no upstream of the
kind takes, then what the resolved capabilities of the route ask for.
-/

namespace ChatGateway

def asciiLowercase (text : Text) : String :=
  String.ofList (text.map Char.toLower)

def normalizeReasoningEffortForModel (effort : String) : Option String :=
  match asciiLowercase (Text.trim effort.toList) with
  | "max" => some "high"
  | "xhigh" => some "high"
  | "high" => some "high"
  | "medium" => some "medium"
  | "low" => some "low"
  | _ => none

def codexReasoningEffortOrder : List String := ["none", "low", "medium", "high", "xhigh", "max"]

def codexReasoningEffortRank (effort : String) : Nat :=
  codexReasoningEffortOrder.idxOf effort

/-- The requested effort if it is supported, or else the highest supported one that is not above
it; of several with one rank the last one counts. -/
def capEffortToSupported (effortMap : OrderedMap String Json) (requested : String) :
    Option String :=
  if (effortMap.find? requested).isSome then some requested
  else
    ((effortMap.entries.map (·.1)).filter fun key =>
        codexReasoningEffortRank key ≤ codexReasoningEffortRank requested).foldl
      (fun best key =>
        match best with
        | none => some key
        | some highest =>
          if codexReasoningEffortRank highest ≤ codexReasoningEffortRank key then some key
          else some highest) none

abbrev JsonFields := List (String × Json)

namespace JsonFields

def removeAll (object : JsonFields) (keys : List String) : JsonFields :=
  keys.foldl Json.removeField object

def stripNonstandard (object : JsonFields) : JsonFields :=
  let object := object.removeAll ["metadata", "user", "parallel_tool_calls"]
  let streaming := ((Json.field object "stream").bind asBool).getD false
  let needsUsage :=
    (((Json.field object "stream_options").bind (·.get "include_usage")).bind asBool).getD false
  if streaming && needsUsage then
    Json.setField object "stream_options" (.object [("include_usage", .bool true)])
  else Json.removeField object "stream_options"
where
  asBool : Json → Option Bool
    | .bool value => some value
    | _ => none

def sanitizeReasoningEffort (object : JsonFields) : JsonFields :=
  match (Json.field object "reasoning_effort").bind Json.asStr with
  | none => object
  | some effort =>
    match normalizeReasoningEffortForModel effort with
    | none => Json.removeField object "reasoning_effort"
    | some normalized =>
      if normalized ≠ effort then Json.setField object "reasoning_effort" (.string normalized)
      else object

def unifyTokenLimit (object : JsonFields) : JsonFields :=
  let outputTokenLimit := Json.field object "max_output_tokens"
  let object := Json.removeField object "max_output_tokens"
  if (Json.field object "max_completion_tokens").isSome then Json.removeField object "max_tokens"
  else if (Json.field object "max_tokens").isSome then
    Json.removeField object "max_completion_tokens"
  else
    match outputTokenLimit with
    | some limit => Json.setField object "max_tokens" limit
    | none => object

def normalizeForUpstream (object : JsonFields) (stripUnknownNonstandardFields : Bool) :
    JsonFields :=
  let object := object.removeAll
    ["service_tier", "safety_identifier", "prompt_cache_key", "prompt_cache_retention",
      "client_metadata", "store", "verbosity", "text"]
  let object := if stripUnknownNonstandardFields then object.stripNonstandard else object
  object.sanitizeReasoningEffort.unifyTokenLimit

def takeFirst (object : JsonFields) : List String → Option Json × JsonFields
  | [] => (none, object)
  | key :: rest =>
    match Json.field object key with
    | some value => (some value, Json.removeField object key)
    | none => object.takeFirst rest

def tokenLimitKey : TokenLimitField → Option String
  | .maxTokens => some "max_tokens"
  | .maxCompletionTokens => some "max_completion_tokens"
  | .maxOutputTokens => some "max_output_tokens"
  | .omit => none

def renameTokenLimit (object : JsonFields) (field : TokenLimitField) : JsonFields :=
  match tokenLimitKey field with
  | none => object
  | some key =>
    match object.takeFirst ["max_output_tokens", "max_completion_tokens", "max_tokens"] with
    | (some value, rest) => Json.setField rest key value
    | (none, rest) => rest

def mappedEffort (effortMap : OrderedMap String Json) (effort : String) : Option Json :=
  (effortMap.find? effort).or ((capEffortToSupported effortMap effort).bind effortMap.find?)

def controlReasoning (object : JsonFields) (controlField : Option String)
    (effortMap : OrderedMap String Json) (requestedEffort : Option String) : JsonFields :=
  let normalizedEffort := (Json.field object "reasoning_effort").bind Json.asStr
  let object := Json.removeField object "reasoning_effort"
  match controlField, normalizedEffort with
  | some field, _ =>
    match (requestedEffort.or normalizedEffort).bind (mappedEffort effortMap) with
    | some mapped => Json.setField object field mapped
    | none => object
  | none, some effort => Json.setField object "reasoning_effort" (.string effort)
  | none, none => object

mutual

def mergeOptionalObject (target : JsonFields) : JsonFields → JsonFields
  | [] => target
  | (key, value) :: rest =>
    mergeOptionalObject (Json.setField target key (mergedValue (Json.field target key) value)) rest

def mergedValue (held : Option Json) : Json → Json
  | .object patch =>
    match held with
    | some (.object target) => .object (mergeOptionalObject target patch)
    | _ => .object patch
  | value => value

end

def applyExtensions (object : JsonFields) (extensions : List ResolvedRequestExtension) :
    JsonFields :=
  extensions.foldl
    (fun object extension =>
      match extension.requestPatch.asObject with
      | some patch => object.mergeOptionalObject patch
      | none => object) object

def omitUnsupported (object : JsonFields) (resolved : ResolvedCapabilities) : JsonFields :=
  let sampled : JsonFields := object.filter fun field => field.1 ∉ resolved.omitSamplingFields
  let metered : JsonFields :=
    if (resolved.values .usageStream).state = .rejected then
      Json.removeField sampled "stream_options"
    else sampled
  if resolved.omitOptionalExtensions then
    metered.removeAll
      ["service_tier", "safety_identifier", "prompt_cache_key", "prompt_cache_retention",
        "client_metadata", "store", "verbosity", "metadata", "user", "text", "parallel_tool_calls"]
  else metered

def normalizeForCapabilities (object : JsonFields) (resolved : ResolvedCapabilities)
    (requestedEffort : Option String) : JsonFields :=
  let limited := (object.omitUnsupported resolved).renameTokenLimit resolved.tokenLimitField
  (limited.controlReasoning resolved.reasoningControlField resolved.effortMap
    requestedEffort).applyExtensions resolved.requestExtensions

end JsonFields

def normalizeChatPayloadForUpstreamCompatibility (body : Json)
    (stripUnknownNonstandardFields : Bool) : Json :=
  match body with
  | .object fields =>
    .object (JsonFields.normalizeForUpstream fields stripUnknownNonstandardFields)
  | other => other

/-- `normalize_chat_payload_for_capabilities_with_requested_effort` -/
def normalizeChatPayloadForCapabilities (body : Json) (resolved : ResolvedCapabilities)
    (requestedEffort : Option String) : Json :=
  match body with
  | .object fields => .object (JsonFields.normalizeForCapabilities fields resolved requestedEffort)
  | other => other

end ChatGateway
