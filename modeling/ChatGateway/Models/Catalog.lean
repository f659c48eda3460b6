import ChatGateway.Models.Identity

set_option autoImplicit false

/-!
# The model catalog

The models the active upstreams publish, with the names that reach them.
-/

namespace ChatGateway

structure PublishedRoute where
  upstreamId : String
  wireModel : Text
  exposedModel : Text
deriving DecidableEq, Repr

structure PublishedModel where
  id : Text
  name : Text
  routes : List PublishedRoute := []
deriving DecidableEq, Repr

structure ModelCatalog where
  models : List PublishedModel := []
  aliases : ModelAliasRegistry := {}
  explicitLabels : Finset Text := ∅
  caseInsensitive : Bool

def wildcardSentinel : Text := "*".toList

def denialSentinel : Text := "__none__".toList

namespace ModelCatalog

def resolveGroupModelId (catalog : ModelCatalog) (name : Text) : Text :=
  let name := Text.trim name
  let key := canonicalModelId name
  if key ∈ catalog.explicitLabels then key
  else canonicalModelId ((catalog.aliases.resolveAlias name).getD name)

def resolvePublicModelId (catalog : ModelCatalog) (name : Text) : Option Text :=
  (codexSubagentBaseModel name).map fun base =>
    catalog.resolveGroupModelId (Text.trim (base.getD name))

def allowsLegacy (catalog : ModelCatalog) (allowed : List Text) (name : Text) : Option Bool :=
  if allowed = [] ∨ allowed.any (fun value => Text.trim value = wildcardSentinel) then some true
  else
    (catalog.resolvePublicModelId name).map fun requested =>
      requested ≠ [] && allowed.any fun value =>
        Text.trim value ≠ [] && Text.trim value ≠ denialSentinel &&
          catalog.resolveGroupModelId (Text.trim value) = requested

variable (catalog : ModelCatalog) {rules : List ModelAliasRule}

@[simp] theorem resolveGroupModelId_trim (name : Text) :
    catalog.resolveGroupModelId (Text.trim name) = catalog.resolveGroupModelId name := by
  unfold resolveGroupModelId
  rw [trim_trim]

theorem trim_resolveGroupModelId (name : Text) :
    Text.trim (catalog.resolveGroupModelId name) = catalog.resolveGroupModelId name := by
  unfold resolveGroupModelId
  dsimp only
  split_ifs <;> exact trim_canonicalModelId _

theorem resolveAlias_congr (registry : ModelAliasRegistry) {first second : Text}
    (same : canonicalModelId first = canonicalModelId second) :
    registry.resolveAlias first = registry.resolveAlias second := by
  unfold ModelAliasRegistry.resolveAlias
  rw [same]

theorem resolveGroupModelId_idem
    (built : ModelAliasRegistry.fromRules rules = .ok catalog.aliases) (name : Text) :
    catalog.resolveGroupModelId (catalog.resolveGroupModelId name) =
      catalog.resolveGroupModelId name := by
  have form (name : Text) : catalog.resolveGroupModelId name =
      if canonicalModelId name ∈ catalog.explicitLabels then canonicalModelId name
      else canonicalModelId ((catalog.aliases.resolveAlias name).getD name) := by
    rw [← resolveGroupModelId_trim]
    simp only [resolveGroupModelId, trim_trim, canonicalModelId_trim,
      resolveAlias_congr catalog.aliases (canonicalModelId_trim name)]
    cases catalog.aliases.resolveAlias name <;> simp
  rw [form name]
  split_ifs with label
  · rw [form, canonicalModelId_idem, if_pos label]
  · rw [form, canonicalModelId_idem]
    split_ifs with another
    · rfl
    · -- An alias leads to a name that is none, and any other name is none itself.
      cases resolved : catalog.aliases.resolveAlias name with
      | none =>
        have again : catalog.aliases.resolveAlias (canonicalModelId name) = none := by
          rw [resolveAlias_congr catalog.aliases (canonicalModelId_idem name), resolved]
        simp [again]
      | some canonical =>
        have final := (ModelAliasRegistry.resolveAlias_canonical built resolved).2
        simp [final]

theorem resolveGroupModelId_ne_nil
    (built : ModelAliasRegistry.fromRules rules = .ok catalog.aliases) {name : Text}
    (filled : Text.trim name ≠ []) : catalog.resolveGroupModelId name ≠ [] := by
  have solid : canonicalModelId (Text.trim name) ≠ [] := by
    rw [canonicalModelId_trim]
    exact fun empty => filled (canonicalModelId_eq_nil.1 empty)
  unfold resolveGroupModelId
  dsimp only
  split_ifs with label
  · exact solid
  · cases resolved : catalog.aliases.resolveAlias (Text.trim name) with
    | none => exact solid
    | some canonical => exact (ModelAliasRegistry.resolveAlias_canonical built resolved).1

end ModelCatalog

end ChatGateway
