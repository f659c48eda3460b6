import ChatGateway.Models.Identity
import ChatGateway.Shared.Checks
import ChatGateway.Shared.OrderedMap
import Mathlib.Data.Char
import Mathlib.Data.List.Lex

set_option autoImplicit false

/-!
# The models of an upstream

How an upstream is stored, which models it lists, and what a requested name resolves to on it.
-/

namespace ChatGateway

def modelsEquivalent (a b : Text) : Bool :=
  Text.trim a ≠ [] && Text.trim b ≠ [] && canonicalModelId a = canonicalModelId b

def modelsEquivalentWith (a b : Text) (caseInsensitive : Bool) : Bool :=
  modelIdentityKeyWith a caseInsensitive ≠ [] &&
    modelIdentityKeyWith a caseInsensitive = modelIdentityKeyWith b caseInsensitive

def findEquivalentStored (stored : List Text) (model : Text) (caseInsensitive : Bool) :
    Option Text :=
  if caseInsensitive then
    if canonicalModelId model = [] then none
    else stored.find? fun candidate =>
      Text.trim candidate ≠ [] && canonicalModelId candidate = canonicalModelId model
  else if Text.trim model = [] then none
  else stored.find? fun candidate => Text.trim candidate = Text.trim model

namespace Models

inductive UpstreamProtocol where
  | chatCompletions
  | responses
deriving DecidableEq, Repr

structure UpstreamModelMapping where
  upstreamModel : Text
  downstreamModel : Text
deriving DecidableEq, Repr

structure ApiKeyModelConfig where
  apiKey : Text
  supportedModels : List Text
deriving DecidableEq, Repr

structure ModelContextConfig where
  slug : Text
  contextLimit : Nat
  outputReserve : Nat
  maxOutputTokens : Nat
  contextGroup : Text
deriving DecidableEq, Repr

structure DefaultModelContextConfig where
  contextLimit : Nat
  outputReserve : Nat
  maxOutputTokens : Nat
  contextGroup : Text
deriving DecidableEq, Repr

@[ext]
structure UpstreamConfig where
  id : String
  remark : Text := []
  continuationProviderGroup : Option Text := none
  apiKey : Text := []
  apiKeys : List Text := []
  apiKeyModels : List ApiKeyModelConfig := []
  protocol : UpstreamProtocol := .chatCompletions
  protocols : List UpstreamProtocol := []
  supportedModels : List Text := []
  modelMappings : List UpstreamModelMapping := []
  modelContexts : List ModelContextConfig := []
  defaultModelContext : Option DefaultModelContextConfig := none
  maxConcurrency : Nat := 1
  active : Bool := true
  failureCount : Nat := 0
  modelDialectPresets : OrderedMap Text Text := {}

def pushNew {A : Type} [DecidableEq A] (kept : List A) (item : A) : List A :=
  if item ∈ kept then kept else kept ++ [item]

def dedupProtocols (values : List UpstreamProtocol) : List UpstreamProtocol :=
  values.foldl pushNew []

def pushText (kept : List Text) (value : Text) : List Text :=
  if Text.trim value = [] then kept else pushNew kept (Text.trim value)

def normalizedStringList (values : List Text) : List Text :=
  values.foldl pushText []

def normalizedCurrentKeys (apiKey : Text) (apiKeys : List Text) : List Text :=
  normalizedStringList (apiKey :: apiKeys)

def addKeyModels (currentKeys : List Text) (normalized : List ApiKeyModelConfig)
    (value : ApiKeyModelConfig) : List ApiKeyModelConfig :=
  let apiKey := Text.trim value.apiKey
  let supportedModels := normalizedStringList value.supportedModels
  if apiKey = [] ∨ apiKey ∉ currentKeys then normalized
  else if apiKey ∈ normalized.map (·.apiKey) then
    normalized.map fun entry =>
      if entry.apiKey = apiKey then
        { entry with
          supportedModels := normalizedStringList (entry.supportedModels ++ supportedModels) }
      else entry
  else normalized ++ [⟨apiKey, supportedModels⟩]

def normalizedApiKeyModels (values : List ApiKeyModelConfig) (currentKeys : List Text) :
    List ApiKeyModelConfig :=
  let normalized := values.foldl (addKeyModels currentKeys) []
  normalized ++ (currentKeys.filter (· ∉ normalized.map (·.apiKey))).map fun apiKey =>
    { apiKey, supportedModels := [] }

def deriveSupportedModels (keyModels : List ApiKeyModelConfig) : List Text :=
  normalizedStringList (keyModels.flatMap (·.supportedModels))

def defaultModelContextOutputReserve : Nat := 2_048

def boundedReserve (contextLimit outputReserve : Nat) : Nat :=
  min (if outputReserve = 0 then defaultModelContextOutputReserve else outputReserve)
    (max (contextLimit - 1) 1)

def ModelContextConfig.normalized (config : ModelContextConfig) : ModelContextConfig where
  slug := Text.trim config.slug
  contextLimit := max config.contextLimit 2
  outputReserve := boundedReserve (max config.contextLimit 2) config.outputReserve
  maxOutputTokens := config.maxOutputTokens
  contextGroup := Text.trim config.contextGroup

def pushContext (kept : List ModelContextConfig) (config : ModelContextConfig) :
    List ModelContextConfig :=
  if Text.trim config.slug = [] ∨ Text.trim config.slug ∈ kept.map (·.slug) then kept
  else kept ++ [config.normalized]

def normalizedModelContexts (values : List ModelContextConfig) : List ModelContextConfig :=
  values.foldl pushContext []

def normalizedDefaultModelContext (value : Option DefaultModelContextConfig) :
    Option DefaultModelContextConfig :=
  value.bind fun context =>
    if context.contextLimit = 0 then none
    else some
      { contextLimit := max context.contextLimit 2
        outputReserve := boundedReserve (max context.contextLimit 2) context.outputReserve
        maxOutputTokens := context.maxOutputTokens
        contextGroup := Text.trim context.contextGroup }

def UpstreamModelMapping.trimmed (mapping : UpstreamModelMapping) : UpstreamModelMapping where
  upstreamModel := Text.trim mapping.upstreamModel
  downstreamModel := Text.trim mapping.downstreamModel

def putPreset (presets : OrderedMap Text Text) (entry : Text × Text) : OrderedMap Text Text :=
  if Text.trim entry.1 ≠ [] ∧ Text.trim entry.2 ≠ [] then
    presets.put (Text.trim entry.1) (Text.trim entry.2)
  else presets

namespace UpstreamConfig

def normalizeForStorage (upstream : UpstreamConfig) : UpstreamConfig :=
  let protocols :=
    if dedupProtocols upstream.protocols = [] then [upstream.protocol]
    else dedupProtocols upstream.protocols
  let apiKey := Text.trim upstream.apiKey
  let apiKeys := normalizedStringList upstream.apiKeys
  let apiKeyModels :=
    if upstream.apiKeyModels = [] then []
    else normalizedApiKeyModels upstream.apiKeyModels (normalizedCurrentKeys apiKey apiKeys)
  { upstream with
    failureCount := 0
    protocols
    protocol := protocols.head?.getD .chatCompletions
    remark := Text.trim upstream.remark
    continuationProviderGroup :=
      (upstream.continuationProviderGroup.map Text.trim).filter (· ≠ [])
    apiKey, apiKeys, apiKeyModels
    supportedModels :=
      if upstream.apiKeyModels = [] then normalizedStringList upstream.supportedModels
      else deriveSupportedModels apiKeyModels
    modelMappings := upstream.modelMappings.map (·.trimmed)
    modelContexts := normalizedModelContexts upstream.modelContexts
    defaultModelContext := normalizedDefaultModelContext upstream.defaultModelContext
    modelDialectPresets := upstream.modelDialectPresets.entries.foldl putPreset {} }

def routeModels (upstream : UpstreamConfig) : List Text :=
  normalizedStringList upstream.supportedModels

def namedMappings (upstream : UpstreamConfig) : List (Text × Text) :=
  (upstream.modelMappings.map fun mapping =>
    (Text.trim mapping.upstreamModel, Text.trim mapping.downstreamModel)).filter fun names =>
      names.1 ≠ [] || names.2 ≠ []

def mappingConflict (names : (Text × Text) × Nat) (other : (Text × Text) × Nat) :
    Except String Unit :=
  if names.2 = other.2 then .ok ()
  else if modelsEquivalent names.1.1 other.1.1 then
    .error ("upstream model '" ++ String.ofList names.1.1 ++
      "' is mapped more than once (conflicts with index " ++ toString other.2 ++ " mapping)")
  else if modelsEquivalent names.1.2 other.1.2 then
    .error ("downstream model '" ++ String.ofList names.1.2 ++
      "' is used by more than one mapping (conflicts with index " ++ toString other.2 ++
      "); each downstream name must map to exactly one upstream model")
  else .ok ()

def validateMapping (mappings : List (Text × Text)) (names : (Text × Text) × Nat) :
    Except String Unit := do
  Checks.reject (names.1.1 = [])
    ("model mapping at index " ++ toString names.2 ++ " has an empty upstream_model")
  Checks.reject (names.1.2 = [])
    ("model mapping at index " ++ toString names.2 ++ " for upstream model '" ++
      String.ofList names.1.1 ++ "' has an empty downstream_model")
  Checks.each (mappingConflict names) mappings.zipIdx

def collision (upstream : UpstreamConfig) (names : (Text × Text) × Nat) : Option String :=
  let occupied := upstream.namedMappings.map fun names => canonicalModelId names.1
  (upstream.routeModels.find? fun routeModel =>
    canonicalModelId routeModel ∉ occupied &&
      canonicalModelId routeModel = canonicalModelId names.1.2).map fun hidden =>
    "downstream model '" ++ String.ofList names.1.2 ++ "' (mapping index " ++ toString names.2 ++
      ") collides with this upstream's own model '" ++ String.ofList hidden ++
      "'; pick a different downstream name or map '" ++ String.ofList hidden ++ "' too"

def validateModelMappings (upstream : UpstreamConfig) : Except String Unit := do
  Checks.each (validateMapping upstream.namedMappings) upstream.namedMappings.zipIdx
  Checks.each (fun names => Checks.refuse (upstream.collision names)) upstream.namedMappings.zipIdx

def isControl (letter : Char) : Bool :=
  letter.toNat < 0x20 || (0x7f ≤ letter.toNat && letter.toNat < 0xa0)

def validateConfiguration (upstream : UpstreamConfig) : Except String Unit := do
  Checks.reject (upstream.maxConcurrency = 0) "max_concurrency must be greater than zero"
  Checks.reject
    (upstream.continuationProviderGroup.any fun group =>
      group.utf8.length > 128 || group.any isControl)
    "continuation provider group must be 1-128 printable characters"
  upstream.validateModelMappings

def namedAs (downstream model : Text) (caseInsensitive : Bool) : Bool :=
  if caseInsensitive then modelsEquivalentWith downstream model true else downstream = model

def mappedRouteModel (upstream : UpstreamConfig) (model : Text) (caseInsensitive : Bool) :
    Option Text :=
  upstream.modelMappings.findSome? fun mapping =>
    if namedAs (Text.trim mapping.downstreamModel) model caseInsensitive then
      -- A blank or stale upstream model passes the mapping over.
      if Text.trim mapping.upstreamModel = [] then none
      else findEquivalentStored upstream.routeModels (Text.trim mapping.upstreamModel)
        caseInsensitive
    else none

def unoccupiedModels (upstream : UpstreamConfig) : List Text :=
  let occupied := upstream.modelMappings.map fun mapping =>
    canonicalModelId (Text.trim mapping.upstreamModel)
  upstream.routeModels.filter fun candidate => canonicalModelId candidate ∉ occupied

def canonicalRouteModel (upstream : UpstreamConfig) (model : Text) (caseInsensitive : Bool) :
    Option (Option Text) :=
  let model := Text.trim model
  if model = [] then some none
  else
    match upstream.mappedRouteModel model caseInsensitive with
    | some stored => some (some stored)
    | none =>
      if upstream.routeModels = [] then
        (codexSubagentBaseModel model).map fun base => if base.isNone then some model else none
      else
        match upstream.unoccupiedModels.find? fun candidate =>
            if caseInsensitive then modelsEquivalentWith candidate model true
            else Text.trim candidate = model with
        | some candidate => some (some candidate)
        | none =>
          (codexSubagentBaseModel model).map fun base =>
            base.bind fun baseModel => upstream.unoccupiedModels.find? fun candidate =>
              if caseInsensitive then modelsEquivalentWith candidate baseModel true
              else candidate = baseModel

def resolvedModelNameWith (upstream : UpstreamConfig) (model : Text) (caseInsensitive : Bool) :
    Option (Option Text) :=
  upstream.canonicalRouteModel model caseInsensitive

def availableKeys (upstream : UpstreamConfig) : List Text :=
  normalizedCurrentKeys upstream.apiKey upstream.apiKeys

/-- Whether a key's models hold the model or what it is a variant of. The split of the name is made
once a candidate is another model. -/
def servesFolded (model : Text) : List Text → Option Bool
  | [] => some false
  | candidate :: rest =>
    if modelsEquivalentWith candidate model true then some true
    else
      (codexSubagentBaseModel model).bind fun base =>
        if base.any (modelsEquivalentWith candidate · true) then some true
        else servesFolded model rest

def ApiKeyModelConfig.serves (mapping : ApiKeyModelConfig) (model : Text)
    (caseInsensitive : Bool) : Option Bool :=
  if caseInsensitive then servesFolded model mapping.supportedModels
  else some (mapping.supportedModels.any fun candidate => Text.trim candidate = model)

def pushKey (upstream : UpstreamConfig) (model : Text) (caseInsensitive : Bool)
    (keys : List Text) (mapping : ApiKeyModelConfig) : Option (List Text) :=
  (ApiKeyModelConfig.serves mapping model caseInsensitive).map fun serves =>
    let key := Text.trim mapping.apiKey
    if serves = false ∨ key = [] ∨ key ∉ upstream.availableKeys then keys else pushNew keys key

def keysForModelWith (upstream : UpstreamConfig) (model : Text) (caseInsensitive : Bool) :
    Option (List Text) :=
  let model := Text.trim model
  if upstream.apiKeyModels = [] then some upstream.availableKeys
  else if model = [] then some []
  else upstream.apiKeyModels.foldlM (upstream.pushKey model caseInsensitive) []

end UpstreamConfig

structure DownstreamModelEntry where
  model : Text
  fromMapping : Bool
deriving DecidableEq, Repr

namespace UpstreamConfig

def effectiveDownstreamModelsDetailed (upstream : UpstreamConfig) : List DownstreamModelEntry :=
  (upstream.modelMappings.filter fun mapping =>
    Text.trim mapping.upstreamModel ≠ [] && Text.trim mapping.downstreamModel ≠ [] &&
      (findEquivalentStored upstream.routeModels (Text.trim mapping.upstreamModel) true).isSome).map
    (fun mapping => { model := Text.trim mapping.downstreamModel, fromMapping := true }) ++
  upstream.unoccupiedModels.map fun candidate => { model := candidate, fromMapping := false }

def effectiveDownstreamModels (upstream : UpstreamConfig) : List Text :=
  upstream.effectiveDownstreamModelsDetailed.map (·.model)

end UpstreamConfig

end Models

end ChatGateway
