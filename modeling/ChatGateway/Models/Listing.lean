import ChatGateway.Models.Normalization

set_option autoImplicit false

/-!
# Listed models

Every listed model should resolve to a stored one that a key serves, and what resolves should be
listed. Listing folds the case of an upstream model whether or not matching does.
-/

namespace ChatGateway

theorem modelIdentityKeyWith_trim (model : Text) (caseInsensitive : Bool) :
    modelIdentityKeyWith (Text.trim model) caseInsensitive =
      modelIdentityKeyWith model caseInsensitive := by
  cases caseInsensitive
  · exact trim_trim model
  · exact canonicalModelId_trim model

theorem modelIdentityKeyWith_eq_nil {model : Text} {caseInsensitive : Bool} :
    modelIdentityKeyWith model caseInsensitive = [] ↔ Text.trim model = [] := by
  cases caseInsensitive
  · exact Iff.rfl
  · exact canonicalModelId_eq_nil

theorem canonicalModelId_of_key {first second : Text} {caseInsensitive : Bool}
    (same : modelIdentityKeyWith first caseInsensitive =
      modelIdentityKeyWith second caseInsensitive) :
    canonicalModelId first = canonicalModelId second := by
  cases caseInsensitive
  · have trimmed : Text.trim first = Text.trim second := same
    rw [← canonicalModelId_trim first, trimmed, canonicalModelId_trim]
  · exact same

theorem modelsEquivalentWith_iff {first second : Text} {caseInsensitive : Bool}
    (filled : Text.trim first ≠ []) :
    modelsEquivalentWith first second caseInsensitive = true ↔
      modelIdentityKeyWith first caseInsensitive = modelIdentityKeyWith second caseInsensitive := by
  have solid : modelIdentityKeyWith first caseInsensitive ≠ [] :=
    mt modelIdentityKeyWith_eq_nil.mp filled
  simp [modelsEquivalentWith, solid]

theorem findEquivalentStored_eq (stored : List Text) (model : Text) (caseInsensitive : Bool) :
    findEquivalentStored stored model caseInsensitive =
      if Text.trim model = [] then none
      else stored.find? fun candidate =>
        modelIdentityKeyWith candidate caseInsensitive = modelIdentityKeyWith model caseInsensitive := by
  cases caseInsensitive
  · rfl
  · unfold findEquivalentStored
    rw [if_pos rfl]
    by_cases blank : Text.trim model = []
    · rw [if_pos (canonicalModelId_eq_nil.mpr blank), if_pos blank]
    · rw [if_neg (mt canonicalModelId_eq_nil.mp blank), if_neg blank]
      refine congrArg (stored.find? ·) (funext fun candidate => ?_)
      have filled : canonicalModelId candidate = canonicalModelId model →
          Text.trim candidate ≠ [] := by
        intro same empty
        rw [canonicalModelId_eq_nil.mpr empty] at same
        exact blank (canonicalModelId_eq_nil.mp same.symm)
      by_cases same : canonicalModelId candidate = canonicalModelId model
      · simp [modelIdentityKeyWith, same, filled same]
      · simp [modelIdentityKeyWith, same]

theorem utf8Size_asciiLower (letter : Char) : (asciiLower letter).utf8Size = letter.utf8Size := by
  by_cases upper : 'A' ≤ letter ∧ letter ≤ 'Z'
  · obtain ⟨code, low, high, rfl⟩ := upper_code upper
    interval_cases code <;> decide
  · rw [asciiLower, if_neg upper]

theorem length_utf8_asciiLower (text : Text) :
    (Text.utf8 (text.map asciiLower)).length = (Text.utf8 text).length := by
  induction text with
  | nil => rfl
  | cons letter rest ih =>
    simp only [Text.utf8, List.map_cons, List.flatMap_cons, List.length_append,
      String.length_utf8EncodeChar, utf8Size_asciiLower] at ih ⊢
    rw [ih]

theorem splitAtBytes_asciiLower (text : Text) (bytes : Nat) :
    (splitAtBytes (text.map asciiLower) bytes).isNone = (splitAtBytes text bytes).isNone := by
  induction text generalizing bytes with
  | nil => rfl
  | cons letter rest ih =>
    cases bytes with
    | zero => rfl
    | succ bytes =>
      simp only [List.map_cons, splitAtBytes, utf8Size_asciiLower]
      split
      next => simpa using ih _
      next => rfl

@[simp] theorem codexSubagentBaseModel_trim (model : Text) :
    codexSubagentBaseModel (Text.trim model) = codexSubagentBaseModel model := by
  unfold codexSubagentBaseModel
  rw [trim_trim]

theorem codexSubagentBaseModel_isNone_congr {first second : Text}
    (same : canonicalModelId first = canonicalModelId second) :
    (codexSubagentBaseModel first).isNone = (codexSubagentBaseModel second).isNone := by
  have folded : ∀ model, (codexSubagentBaseModel (canonicalModelId model)).isNone =
      (codexSubagentBaseModel model).isNone := by
    intro model
    unfold codexSubagentBaseModel
    simp only [trim_canonicalModelId]
    rw [canonicalModelId, length_utf8_asciiLower]
    split
    next => rfl
    next => simpa using splitAtBytes_asciiLower _ _
  rw [← folded first, same, folded]

namespace Models

structure Sound (upstream : UpstreamConfig) : Prop where
  models : Clean upstream.routeModels
  trimmed : ∀ mapping ∈ upstream.modelMappings, mapping.trimmed = mapping
  paired : ∀ mapping ∈ upstream.modelMappings, mapping.upstreamModel ≠ [] →
    mapping.downstreamModel ≠ []
  upstreams : ∀ first ∈ upstream.modelMappings, ∀ second ∈ upstream.modelMappings,
    first.upstreamModel ≠ [] → second.upstreamModel ≠ [] →
    canonicalModelId first.upstreamModel = canonicalModelId second.upstreamModel → first = second
  downstreams : ∀ first ∈ upstream.modelMappings, ∀ second ∈ upstream.modelMappings,
    first.upstreamModel ≠ [] → second.upstreamModel ≠ [] →
    canonicalModelId first.downstreamModel = canonicalModelId second.downstreamModel →
    first = second
  apart : ∀ mapping ∈ upstream.modelMappings, mapping.upstreamModel ≠ [] →
    ∀ model ∈ upstream.unoccupiedModels,
      canonicalModelId model ≠ canonicalModelId mapping.downstreamModel
  keyed : upstream.apiKeyModels ≠ [] → ∀ model ∈ upstream.routeModels,
    ∃ entry ∈ upstream.apiKeyModels, model ∈ entry.supportedModels
  current : ∀ entry ∈ upstream.apiKeyModels, Text.trim entry.apiKey = entry.apiKey ∧
    entry.apiKey ≠ [] ∧ entry.apiKey ∈ upstream.availableKeys
  served : ∀ entry ∈ upstream.apiKeyModels, Clean entry.supportedModels

section Validity

variable {upstream : UpstreamConfig}

theorem validateMapping_eq_ok {mappings : List (Text × Text)} {names : (Text × Text) × Nat} :
    UpstreamConfig.validateMapping mappings names = .ok () ↔
      names.1.1 ≠ [] ∧ names.1.2 ≠ [] ∧
        ∀ other ∈ mappings.zipIdx, UpstreamConfig.mappingConflict names other = .ok () := by
  simp only [UpstreamConfig.validateMapping, Checks.then_eq_ok, Checks.reject_eq_ok,
    Checks.each_eq_ok, ne_eq]

theorem exists_zipIdx {A : Type} {items : List A} {item : A} (member : item ∈ items) :
    ∃ index, (item, index) ∈ items.zipIdx := by
  obtain ⟨index, isItem⟩ := List.mem_iff_getElem?.mp member
  exact ⟨index, List.mem_zipIdx_iff_getElem?.mpr isItem⟩

theorem mapping_unique {mappings : List (Text × Text)}
    (checked : ∀ names ∈ mappings.zipIdx, UpstreamConfig.validateMapping mappings names = .ok ())
    (trimmed : ∀ names ∈ mappings, Text.trim names.1 = names.1 ∧ Text.trim names.2 = names.2)
    {first second : Text × Text} (member : first ∈ mappings) (other : second ∈ mappings)
    (same : canonicalModelId first.1 = canonicalModelId second.1 ∨
      canonicalModelId first.2 = canonicalModelId second.2) : first = second := by
  obtain ⟨index, isFirst⟩ := List.mem_iff_getElem?.mp member
  obtain ⟨later, isSecond⟩ := List.mem_iff_getElem?.mp other
  have firstListed : (first, index) ∈ mappings.zipIdx := List.mem_zipIdx_iff_getElem?.mpr isFirst
  have secondListed : (second, later) ∈ mappings.zipIdx :=
    List.mem_zipIdx_iff_getElem?.mpr isSecond
  by_cases here : index = later
  · subst here
    rw [isFirst] at isSecond
    exact Option.some_inj.mp isSecond
  · obtain ⟨upstream, downstream, apart⟩ := validateMapping_eq_ok.mp (checked _ firstListed)
    obtain ⟨otherUpstream, otherDownstream, -⟩ := validateMapping_eq_ok.mp (checked _ secondListed)
    have conflict := apart _ secondListed
    have firstTrimmed := trimmed first member
    have secondTrimmed := trimmed second other
    unfold UpstreamConfig.mappingConflict at conflict
    dsimp only at conflict upstream downstream otherUpstream otherDownstream
    rw [if_neg here] at conflict
    split at conflict
    · cases conflict
    next differing =>
      split at conflict
      · cases conflict
      next distinct =>
        simp [modelsEquivalent, firstTrimmed, secondTrimmed, upstream, otherUpstream] at differing
        simp [modelsEquivalent, firstTrimmed, secondTrimmed, downstream, otherDownstream]
          at distinct
        rcases same with agree | agree
        · exact absurd agree differing
        · exact absurd agree distinct

theorem named_of_mapping {mapping : UpstreamModelMapping} (member : mapping ∈ upstream.modelMappings)
    (trimmed : mapping.trimmed = mapping)
    (filled : mapping.upstreamModel ≠ [] ∨ mapping.downstreamModel ≠ []) :
    (mapping.upstreamModel, mapping.downstreamModel) ∈ upstream.namedMappings := by
  have upstreamTrimmed : Text.trim mapping.upstreamModel = mapping.upstreamModel :=
    congrArg UpstreamModelMapping.upstreamModel trimmed
  have downstreamTrimmed : Text.trim mapping.downstreamModel = mapping.downstreamModel :=
    congrArg UpstreamModelMapping.downstreamModel trimmed
  refine List.mem_filter.mpr ⟨List.mem_map.mpr ⟨mapping, member, ?_⟩, by simpa using filled⟩
  rw [upstreamTrimmed, downstreamTrimmed]

-- A model with another name for every mapping's upstream model is occupied by none of them.
theorem collision_eq_none {names : (Text × Text) × Nat} :
    upstream.collision names = none ↔
      ∀ model ∈ upstream.routeModels,
        canonicalModelId model ∉ upstream.namedMappings.map (fun names => canonicalModelId names.1) →
          canonicalModelId model ≠ canonicalModelId names.1.2 := by
  unfold UpstreamConfig.collision
  simp only [Option.map_eq_none_iff, List.find?_eq_none]
  refine forall₂_congr fun model _ => ?_
  simp

variable (config : UpstreamConfig)

theorem routeModels_stored :
    config.normalizeForStorage.routeModels = config.normalizeForStorage.supportedModels := by
  have clean : Clean config.normalizeForStorage.supportedModels := by
    simp only [UpstreamConfig.normalizeForStorage]
    split <;> exact clean_normalizedStringList _
  exact clean.normalized

theorem availableKeys_stored : config.normalizeForStorage.availableKeys =
    normalizedCurrentKeys (Text.trim config.apiKey) (normalizedStringList config.apiKeys) := rfl

theorem keyTable_stored :
    KeyTable config.normalizeForStorage.availableKeys config.normalizeForStorage.apiKeyModels := by
  rw [availableKeys_stored]
  simp only [UpstreamConfig.normalizeForStorage]
  split
  next => exact ⟨by simp, by simp, List.nodup_nil⟩
  next => exact keyTable_normalized _ (clean_normalizedStringList _).nodup

theorem sound_of_valid (valid : config.normalizeForStorage.validateConfiguration = .ok ()) :
    Sound config.normalizeForStorage := by
  simp only [UpstreamConfig.validateConfiguration, UpstreamConfig.validateModelMappings,
    Checks.then_eq_ok, Checks.each_eq_ok, Checks.refuse_eq_ok] at valid
  obtain ⟨-, -, checked, hides⟩ := valid
  have table := keyTable_stored config
  have modelsTrimmed : ∀ mapping ∈ config.normalizeForStorage.modelMappings,
      mapping.trimmed = mapping := by
    intro mapping member
    obtain ⟨source, -, rfl⟩ := List.mem_map.mp member
    simp only [UpstreamModelMapping.trimmed, trim_trim]
  generalize stored : config.normalizeForStorage = upstream at *
  have namesTrimmed : ∀ names ∈ upstream.namedMappings,
      Text.trim names.1 = names.1 ∧ Text.trim names.2 = names.2 := by
    intro names member
    obtain ⟨mapping, -, rfl⟩ := List.mem_map.mp (List.mem_filter.mp member).1
    exact ⟨trim_trim _, trim_trim _⟩
  have unique := fun first second => @mapping_unique _ checked namesTrimmed first second
  have named := fun mapping member filled =>
    @named_of_mapping upstream mapping member (modelsTrimmed mapping member) filled
  have pairEq : ∀ first second : UpstreamModelMapping,
      (first.upstreamModel, first.downstreamModel) =
        (second.upstreamModel, second.downstreamModel) → first = second := by
    rintro ⟨_, _⟩ ⟨_, _⟩ same
    cases same
    rfl
  refine ⟨clean_normalizedStringList _, modelsTrimmed, ?_, ?_, ?_, ?_, ?_, ?_, table.clean⟩
  · intro mapping member filled
    obtain ⟨index, isNamed⟩ := exists_zipIdx (named mapping member (Or.inl filled))
    exact (validateMapping_eq_ok.mp (checked _ isNamed)).2.1
  · intro first member second other filled otherFilled same
    exact pairEq _ _ (unique _ _ (named first member (Or.inl filled))
      (named second other (Or.inl otherFilled)) (Or.inl same))
  · intro first member second other filled otherFilled same
    exact pairEq _ _ (unique _ _ (named first member (Or.inl filled))
      (named second other (Or.inl otherFilled)) (Or.inr same))
  · intro mapping member filled model free
    obtain ⟨listed, unoccupied⟩ := List.mem_filter.mp free
    obtain ⟨index, isNamed⟩ := exists_zipIdx (named mapping member (Or.inl filled))
    refine collision_eq_none.mp (hides _ isNamed) model listed ?_
    intro occupied
    obtain ⟨names, namedBy, same⟩ := List.mem_map.mp occupied
    obtain ⟨source, sourceMember, rfl⟩ := List.mem_map.mp (List.mem_filter.mp namedBy).1
    have free : canonicalModelId model ∉ upstream.modelMappings.map fun mapping =>
        canonicalModelId (Text.trim mapping.upstreamModel) := by simpa using unoccupied
    exact free (List.mem_map.mpr ⟨source, sourceMember, same⟩)
  · intro keyed model listed
    have derived : upstream.supportedModels = deriveSupportedModels upstream.apiKeyModels := by
      rw [← stored] at keyed ⊢
      by_cases unset : config.apiKeyModels = []
      · simp [UpstreamConfig.normalizeForStorage, unset] at keyed
      · simp [UpstreamConfig.normalizeForStorage, unset]
    have same : upstream.routeModels = upstream.supportedModels := by
      rw [← stored]
      exact routeModels_stored config
    rw [same, derived] at listed
    obtain ⟨-, source, member, rfl⟩ := mem_normalizedStringList.mp listed
    obtain ⟨entry, entryMember, held⟩ := List.mem_flatMap.mp member
    exact ⟨entry, entryMember, ((table.clean entry entryMember).trimmed source held).symm ▸ held⟩
  · intro entry member
    have clean : Clean upstream.availableKeys := clean_normalizedStringList _
    have current := table.current entry member
    exact ⟨clean.trimmed _ current, clean.filled _ current, current⟩

end Validity

section Resolution

variable {upstream : UpstreamConfig} {name stored : Text} {caseInsensitive : Bool}

theorem Sound.trim_upstream (sound : Sound upstream) {mapping : UpstreamModelMapping}
    (member : mapping ∈ upstream.modelMappings) :
    Text.trim mapping.upstreamModel = mapping.upstreamModel :=
  congrArg UpstreamModelMapping.upstreamModel (sound.trimmed mapping member)

theorem Sound.trim_downstream (sound : Sound upstream) {mapping : UpstreamModelMapping}
    (member : mapping ∈ upstream.modelMappings) :
    Text.trim mapping.downstreamModel = mapping.downstreamModel :=
  congrArg UpstreamModelMapping.downstreamModel (sound.trimmed mapping member)

theorem namedAs_iff {downstream : Text} (trimmed : Text.trim downstream = downstream)
    (nameTrimmed : Text.trim name = name) (filled : name ≠ []) :
    UpstreamConfig.namedAs downstream name caseInsensitive = true ↔
      modelIdentityKeyWith downstream caseInsensitive =
        modelIdentityKeyWith name caseInsensitive := by
  cases caseInsensitive
  · simp [UpstreamConfig.namedAs, modelIdentityKeyWith, trimmed, nameTrimmed]
  · have solid : canonicalModelId name ≠ [] := by
      rw [Ne, canonicalModelId_eq_nil, nameTrimmed]
      exact filled
    simp only [UpstreamConfig.namedAs, modelsEquivalentWith, modelIdentityKeyWith, if_true,
      Bool.and_eq_true, decide_eq_true_eq, ne_eq]
    constructor
    · exact fun both => both.2
    · intro same
      exact ⟨fun empty => solid (same ▸ empty), same⟩

-- A name resolves through a mapping exactly when one that has it leads to a stored model.
theorem Sound.mappedRouteModel_eq_some (sound : Sound upstream)
    (nameTrimmed : Text.trim name = name) (filled : name ≠ []) :
    upstream.mappedRouteModel name caseInsensitive = some stored ↔
      ∃ mapping ∈ upstream.modelMappings, mapping.upstreamModel ≠ [] ∧
        modelIdentityKeyWith mapping.downstreamModel caseInsensitive =
          modelIdentityKeyWith name caseInsensitive ∧
        findEquivalentStored upstream.routeModels mapping.upstreamModel caseInsensitive =
          some stored := by
  have speaks : ∀ mapping ∈ upstream.modelMappings, ∀ found,
      (if UpstreamConfig.namedAs (Text.trim mapping.downstreamModel) name caseInsensitive then
        if Text.trim mapping.upstreamModel = [] then none
        else findEquivalentStored upstream.routeModels (Text.trim mapping.upstreamModel)
          caseInsensitive
      else none) = some found ↔
        mapping.upstreamModel ≠ [] ∧
          modelIdentityKeyWith mapping.downstreamModel caseInsensitive =
            modelIdentityKeyWith name caseInsensitive ∧
          findEquivalentStored upstream.routeModels mapping.upstreamModel caseInsensitive =
            some found := by
    intro mapping member found
    have same := @namedAs_iff name caseInsensitive _ (sound.trim_downstream member) nameTrimmed
      filled
    rw [sound.trim_upstream member, sound.trim_downstream member]
    by_cases named : UpstreamConfig.namedAs mapping.downstreamModel name caseInsensitive = true
    · by_cases blank : mapping.upstreamModel = []
      · simp [named, blank]
      · simp [named, blank, same.mp named]
    · simp [named, mt same.mpr named]
  rw [UpstreamConfig.mappedRouteModel, List.findSome?_eq_some_iff]
  constructor
  · rintro ⟨earlier, mapping, later, split, found, -⟩
    have member : mapping ∈ upstream.modelMappings := by
      rw [split]
      exact List.mem_append_right _ List.mem_cons_self
    exact ⟨mapping, member, (speaks mapping member stored).mp found⟩
  · rintro ⟨mapping, member, leads⟩
    obtain ⟨first, found⟩ : ∃ first, upstream.mappedRouteModel name caseInsensitive =
        some first := by
      refine Option.isSome_iff_exists.mp ?_
      rw [UpstreamConfig.mappedRouteModel, List.findSome?_isSome_iff]
      refine ⟨mapping, member, ?_⟩
      rw [(speaks mapping member stored).mpr leads]
      rfl
    rw [UpstreamConfig.mappedRouteModel] at found
    rw [← List.findSome?_eq_some_iff, found]
    obtain ⟨earlier, other, later, split, spoken, -⟩ := List.findSome?_eq_some_iff.mp found
    have otherMember : other ∈ upstream.modelMappings := by
      rw [split]
      exact List.mem_append_right _ List.mem_cons_self
    obtain ⟨otherFilled, otherNamed, otherFound⟩ := (speaks other otherMember first).mp spoken
    -- distinct mappings have distinct names, so the first one that answers is this one
    have one := sound.downstreams mapping member other otherMember leads.1 otherFilled
      (canonicalModelId_of_key (leads.2.1.trans otherNamed.symm))
    subst one
    exact (otherFound.symm.trans leads.2.2 ▸ rfl)

theorem findEquivalentStored_spec {models : List Text} {model : Text}
    (found : findEquivalentStored models model caseInsensitive = some stored) :
    stored ∈ models ∧ modelIdentityKeyWith stored caseInsensitive =
      modelIdentityKeyWith model caseInsensitive := by
  rw [findEquivalentStored_eq] at found
  split at found
  · cases found
  · exact ⟨List.mem_of_find?_eq_some found, by simpa using List.find?_some found⟩

theorem exists_findEquivalentStored {models : List Text} {model held : Text}
    (filled : Text.trim model ≠ []) (member : held ∈ models)
    (same : modelIdentityKeyWith held caseInsensitive =
      modelIdentityKeyWith model caseInsensitive) :
    ∃ stored, findEquivalentStored models model caseInsensitive = some stored := by
  rw [findEquivalentStored_eq, if_neg filled]
  exact Option.isSome_iff_exists.mp (List.find?_isSome.mpr ⟨held, member, by simpa using same⟩)

theorem mem_unoccupiedModels : stored ∈ upstream.unoccupiedModels ↔
    stored ∈ upstream.routeModels ∧ ∀ mapping ∈ upstream.modelMappings,
      canonicalModelId (Text.trim mapping.upstreamModel) ≠ canonicalModelId stored := by
  simp [UpstreamConfig.unoccupiedModels]

theorem ownName_iff {candidate : Text} (candidateFilled : Text.trim candidate ≠ [])
    (nameTrimmed : Text.trim name = name) :
    (if caseInsensitive then modelsEquivalentWith candidate name true
      else decide (Text.trim candidate = name)) = true ↔
      modelIdentityKeyWith candidate caseInsensitive =
        modelIdentityKeyWith name caseInsensitive := by
  cases caseInsensitive
  · simp [modelIdentityKeyWith, nameTrimmed]
  · rw [if_pos rfl]
    exact modelsEquivalentWith_iff candidateFilled

theorem Sound.filled (sound : Sound upstream) (member : stored ∈ upstream.routeModels) :
    Text.trim stored ≠ [] := by
  rw [sound.models.trimmed stored member]
  exact sound.models.filled stored member

theorem Sound.resolved_own (sound : Sound upstream) (nameTrimmed : Text.trim name = name)
    (filled : name ≠ []) (unmapped : upstream.mappedRouteModel name caseInsensitive = none)
    {candidate : Text} (free : candidate ∈ upstream.unoccupiedModels)
    (same : modelIdentityKeyWith candidate caseInsensitive =
      modelIdentityKeyWith name caseInsensitive) :
    ∃ stored ∈ upstream.unoccupiedModels,
      modelIdentityKeyWith stored caseInsensitive = modelIdentityKeyWith name caseInsensitive ∧
      upstream.resolvedModelNameWith name caseInsensitive = some (some stored) := by
  have own := fun other (member : other ∈ upstream.unoccupiedModels) =>
    @ownName_iff name caseInsensitive other
      (sound.filled (mem_unoccupiedModels.mp member).1) nameTrimmed
  have stocked : upstream.routeModels ≠ [] :=
    List.ne_nil_of_mem (mem_unoccupiedModels.mp free).1
  unfold UpstreamConfig.resolvedModelNameWith UpstreamConfig.canonicalRouteModel
  simp only [nameTrimmed, if_neg filled, unmapped, if_neg stocked]
  split
  next stored found =>
    have member := List.mem_of_find?_eq_some found
    have isOwn := List.find?_some found
    exact ⟨stored, member, (own stored member).mp isOwn, rfl⟩
  next missing =>
    exact absurd ((own candidate free).mpr same) (by simpa using List.find?_eq_none.mp missing candidate free)

-- What resolves does so through a mapping, as an own model, or as a variant of one.
theorem Sound.resolved_cases (sound : Sound upstream) (stocked : upstream.routeModels ≠ [])
    (resolved : upstream.resolvedModelNameWith name caseInsensitive = some (some stored)) :
    Text.trim name ≠ [] ∧
    (upstream.mappedRouteModel (Text.trim name) caseInsensitive = some stored ∨
      (stored ∈ upstream.unoccupiedModels ∧ modelIdentityKeyWith stored caseInsensitive =
        modelIdentityKeyWith name caseInsensitive) ∨
      ∃ base, codexSubagentBaseModel name = some (some base) ∧
        stored ∈ upstream.unoccupiedModels ∧
        modelIdentityKeyWith stored caseInsensitive =
          modelIdentityKeyWith base caseInsensitive) := by
  unfold UpstreamConfig.resolvedModelNameWith UpstreamConfig.canonicalRouteModel at resolved
  dsimp only at resolved
  split at resolved
  · cases resolved
  next filled =>
    refine ⟨filled, ?_⟩
    split at resolved
    next found mapped =>
      cases resolved
      exact Or.inl mapped
    next =>
      split at resolved
      next candidate found =>
        cases resolved
        have member := List.mem_of_find?_eq_some found
        have isOwn := List.find?_some found
        have same := (ownName_iff (sound.filled (mem_unoccupiedModels.mp member).1)
          (trim_trim name)).mp isOwn
        rw [modelIdentityKeyWith_trim] at same
        exact Or.inr (Or.inl ⟨member, same⟩)
      next =>
        rw [codexSubagentBaseModel_trim] at resolved
        obtain ⟨variant, isVariant, found⟩ := Option.map_eq_some_iff.mp resolved
        obtain ⟨base, rfl, found⟩ := Option.bind_eq_some_iff.mp found
        have member := List.mem_of_find?_eq_some found
        refine Or.inr (Or.inr ⟨base, isVariant, member, ?_⟩)
        have same := List.find?_some found
        cases caseInsensitive
        · exact congrArg Text.trim (of_decide_eq_true same)
        · exact (modelsEquivalentWith_iff
            (sound.filled (mem_unoccupiedModels.mp member).1)).mp same

-- Where neither a mapping nor an own model answers, only the model of a variant is left.
theorem resolved_variant (stocked : upstream.routeModels ≠ [])
    (nameTrimmed : Text.trim name = name) (filled : name ≠ [])
    (unmapped : upstream.mappedRouteModel name false = none)
    (absent : ∀ candidate ∈ upstream.unoccupiedModels,
      modelIdentityKeyWith candidate false ≠ modelIdentityKeyWith name false) :
    (∃ stored, upstream.resolvedModelNameWith name false = some (some stored)) ↔
      ∃ base, codexSubagentBaseModel name = some (some base) ∧
        base ∈ upstream.unoccupiedModels := by
  have missing : (upstream.unoccupiedModels.find? fun candidate =>
      decide (Text.trim candidate = name)) = none := by
    rw [List.find?_eq_none]
    intro candidate member
    have other := absent candidate member
    simp only [modelIdentityKeyWith, nameTrimmed] at other
    simpa using other
  unfold UpstreamConfig.resolvedModelNameWith UpstreamConfig.canonicalRouteModel
  simp only [nameTrimmed, if_neg filled, unmapped, if_neg stocked, Bool.false_eq_true, if_false, missing]
  constructor
  · rintro ⟨stored, resolved⟩
    obtain ⟨variant, isVariant, found⟩ := Option.map_eq_some_iff.mp resolved
    obtain ⟨base, rfl, found⟩ := Option.bind_eq_some_iff.mp found
    rw [Option.bind_some] at found
    have isBase := List.find?_some found
    have same : stored = base := of_decide_eq_true isBase
    exact ⟨base, isVariant, same ▸ List.mem_of_find?_eq_some found⟩
  · rintro ⟨base, isVariant, member⟩
    obtain ⟨stored, found⟩ : ∃ stored, upstream.unoccupiedModels.find?
        (fun candidate => decide (candidate = base)) = some stored :=
      Option.isSome_iff_exists.mp (List.find?_isSome.mpr ⟨base, member, decide_eq_true rfl⟩)
    refine ⟨stored, ?_⟩
    rw [isVariant, Option.map_some, Option.bind_some, found]

end Resolution

section Keys

variable {upstream : UpstreamConfig} {model : Text} {caseInsensitive : Bool}

-- The split of the name is reached, and panics, exactly when the first model is another one.
theorem servesFolded_eq_none {models : List Text} :
    UpstreamConfig.servesFolded model models = none ↔
      codexSubagentBaseModel model = none ∧
        ∃ first rest, models = first :: rest ∧ modelsEquivalentWith first model true = false := by
  induction models with
  | nil => simp [UpstreamConfig.servesFolded]
  | cons first rest ih =>
    unfold UpstreamConfig.servesFolded
    cases here : modelsEquivalentWith first model true with
    | true => simp [here]
    | false =>
      cases variant : codexSubagentBaseModel model with
      | none => simp [here]
      | some base =>
        rw [variant] at ih
        have answers : UpstreamConfig.servesFolded model rest ≠ none := by simpa using ih
        simp only [Option.bind_some, Bool.false_eq_true, if_false]
        split <;> simp [answers]

theorem servesFolded_of_mem {models : List Text} {held : Text} (member : held ∈ models)
    (same : modelsEquivalentWith held model true = true)
    (answers : UpstreamConfig.servesFolded model models ≠ none) :
    UpstreamConfig.servesFolded model models = some true := by
  induction models with
  | nil => cases member
  | cons first rest ih =>
    unfold UpstreamConfig.servesFolded at answers ⊢
    cases here : modelsEquivalentWith first model true with
    | true => rfl
    | false =>
      rw [here] at answers
      cases variant : codexSubagentBaseModel model with
      | none => simp [variant] at answers
      | some base =>
        simp only [variant, Option.bind_some, Bool.false_eq_true, if_false] at answers ⊢
        split
        next => rfl
        next other =>
          rw [if_neg other] at answers
          rcases List.mem_cons.mp member with rfl | later
          · rw [same] at here
            cases here
          · exact ih later answers

theorem foldlM_pushKey_eq_none {entries : List ApiKeyModelConfig} {keys : List Text} :
    entries.foldlM (upstream.pushKey model caseInsensitive) keys = none ↔
      ∃ entry ∈ entries, UpstreamConfig.ApiKeyModelConfig.serves entry model caseInsensitive = none := by
  induction entries generalizing keys with
  | nil => simp
  | cons entry rest ih =>
    rw [List.foldlM_cons, List.exists_mem_cons_iff]
    cases answer : UpstreamConfig.ApiKeyModelConfig.serves entry model caseInsensitive with
    | none => simp [UpstreamConfig.pushKey, answer]
    | some serves =>
      simp only [UpstreamConfig.pushKey, answer, Option.map_some, Option.bind_eq_bind,
        Option.bind_some, reduceCtorEq, false_or]
      exact ih

theorem mem_foldlM_pushKey {entries : List ApiKeyModelConfig} {keys found : List Text}
    (folded : entries.foldlM (upstream.pushKey model caseInsensitive) keys = some found) :
    (∀ key ∈ keys, key ∈ found) ∧ ∀ entry ∈ entries,
      UpstreamConfig.ApiKeyModelConfig.serves entry model caseInsensitive = some true →
      Text.trim entry.apiKey ≠ [] → Text.trim entry.apiKey ∈ upstream.availableKeys →
        Text.trim entry.apiKey ∈ found := by
  induction entries generalizing keys with
  | nil =>
    cases folded
    exact ⟨fun _ held => held, by simp⟩
  | cons entry rest ih =>
    rw [List.foldlM_cons] at folded
    obtain ⟨next, isNext, later⟩ := Option.bind_eq_some_iff.mp folded
    obtain ⟨kept, serving⟩ := ih later
    obtain ⟨serves, answer, rfl⟩ := Option.map_eq_some_iff.mp isNext
    dsimp only at kept
    refine ⟨fun key held => kept key ?_, ?_⟩
    · split
      · exact held
      · exact mem_pushNew.mpr (Or.inl held)
    · rw [List.forall_mem_cons]
      refine ⟨fun served filled usable => kept _ ?_, serving⟩
      rw [answer] at served
      cases served
      have passes : ¬(true = false ∨ Text.trim entry.apiKey = [] ∨
          Text.trim entry.apiKey ∉ upstream.availableKeys) := by
        simp [filled, usable]
      rw [if_neg passes]
      exact mem_pushNew.mpr (Or.inr rfl)

def SplitPanics (upstream : UpstreamConfig) (model : Text) : Prop :=
  codexSubagentBaseModel model = none ∧ ∃ entry ∈ upstream.apiKeyModels, ∃ first rest,
    entry.supportedModels = first :: rest ∧ canonicalModelId first ≠ canonicalModelId model

theorem Sound.keys_of_stored (sound : Sound upstream) (keyed : upstream.availableKeys ≠ [])
    (listed : model ∈ upstream.routeModels) :
    (∃ key keys, upstream.keysForModelWith model caseInsensitive = some (key :: keys)) ↔
      caseInsensitive = false ∨ ¬SplitPanics upstream model := by
  have trimmed := sound.models.trimmed model listed
  have filled := sound.models.filled model listed
  unfold UpstreamConfig.keysForModelWith
  simp only [trimmed, if_neg filled]
  split
  next unset =>
    refine iff_of_true ?_ (Or.inr ?_)
    · obtain ⟨key, keys, isCons⟩ := List.exists_cons_of_ne_nil keyed
      exact ⟨key, keys, by rw [isCons]⟩
    · rintro ⟨-, entry, member, -⟩
      rw [unset] at member
      cases member
  next set =>
    obtain ⟨entry, member, held⟩ := sound.keyed set model listed
    obtain ⟨keyTrimmed, keyFilled, usable⟩ := sound.current entry member
    have unanswered : upstream.apiKeyModels.foldlM (upstream.pushKey model caseInsensitive) [] = none ↔
        caseInsensitive = true ∧ SplitPanics upstream model := by
      rw [foldlM_pushKey_eq_none]
      cases caseInsensitive with
      | false => simp [UpstreamConfig.ApiKeyModelConfig.serves]
      | true =>
        simp only [UpstreamConfig.ApiKeyModelConfig.serves, if_true, servesFolded_eq_none,
          SplitPanics, true_and]
        constructor
        · rintro ⟨entry, member, panics, first, rest, isCons, other⟩
          have firstFilled : Text.trim first ≠ [] := by
            have clean := sound.served entry member
            rw [clean.trimmed first (isCons ▸ List.mem_cons_self)]
            exact clean.filled first (isCons ▸ List.mem_cons_self)
          refine ⟨panics, entry, member, first, rest, isCons, fun same => ?_⟩
          have equivalent : modelsEquivalentWith first model true = true :=
            (modelsEquivalentWith_iff firstFilled).mpr same
          rw [equivalent] at other
          cases other
        · rintro ⟨panics, entry, member, first, rest, isCons, other⟩
          refine ⟨entry, member, panics, first, rest, isCons, ?_⟩
          rw [Bool.eq_false_iff]
          intro same
          simp only [modelsEquivalentWith, Bool.and_eq_true, decide_eq_true_eq] at same
          exact other same.2
    cases found : upstream.apiKeyModels.foldlM (upstream.pushKey model caseInsensitive) [] with
    | none =>
      obtain ⟨folds, panics⟩ := unanswered.mp found
      refine iff_of_false (by simp) ?_
      rw [folds]
      simp [panics]
    | some keys =>
      have answers : UpstreamConfig.ApiKeyModelConfig.serves entry model caseInsensitive =
          some true := by
        cases caseInsensitive with
        | false =>
          refine congrArg some (List.any_eq_true.mpr ⟨model, held, ?_⟩)
          exact decide_eq_true trimmed
        | true =>
          refine servesFolded_of_mem held ((modelsEquivalentWith_iff (sound.filled listed)).mpr rfl) ?_
          intro panics
          have failed : upstream.apiKeyModels.foldlM (upstream.pushKey model true) [] = none :=
            foldlM_pushKey_eq_none.mpr ⟨entry, member, panics⟩
          rw [failed] at found
          cases found
      have inFound := (mem_foldlM_pushKey found).2 entry member answers
        (keyTrimmed.symm ▸ keyFilled) (keyTrimmed.symm ▸ usable)
      refine iff_of_true ?_ ?_
      · obtain ⟨key, rest, isCons⟩ := List.exists_cons_of_ne_nil (List.ne_nil_of_mem inFound)
        exact ⟨key, rest, by rw [isCons]⟩
      · by_contra broken
        rw [not_or, not_not, Bool.not_eq_false] at broken
        rw [unanswered.mpr broken] at found
        cases found

end Keys

structure ListingHolds (upstream : UpstreamConfig) (caseInsensitive : Bool) : Prop where
  routed : ∀ name ∈ upstream.effectiveDownstreamModels, ∃ stored ∈ upstream.routeModels,
    upstream.resolvedModelNameWith name caseInsensitive = some (some stored) ∧
      (upstream.availableKeys ≠ [] →
        ∃ key keys, upstream.keysForModelWith stored caseInsensitive = some (key :: keys))
  distinct : ∀ first ∈ upstream.effectiveDownstreamModels,
    ∀ second ∈ upstream.effectiveDownstreamModels,
      modelsEquivalentWith first second caseInsensitive = false →
      ∀ stored, upstream.mappedRouteModel first caseInsensitive = some stored →
        upstream.mappedRouteModel second caseInsensitive ≠ some stored
  complete : ∀ name stored,
    upstream.resolvedModelNameWith name caseInsensitive = some (some stored) →
      ∃ advertised ∈ upstream.effectiveDownstreamModels,
        modelsEquivalentWith name advertised caseInsensitive = true ∨
          ∃ base, codexSubagentBaseModel name = some (some base) ∧
            modelsEquivalentWith base advertised caseInsensitive = true

section Listing

variable {upstream : UpstreamConfig} {name stored : Text} {caseInsensitive : Bool}

theorem Sound.mem_effectiveDownstreamModels (sound : Sound upstream) :
    name ∈ upstream.effectiveDownstreamModels ↔
      (∃ mapping ∈ upstream.modelMappings, mapping.upstreamModel ≠ [] ∧
        (∃ stored ∈ upstream.routeModels,
          canonicalModelId stored = canonicalModelId mapping.upstreamModel) ∧
        mapping.downstreamModel = name) ∨
      name ∈ upstream.unoccupiedModels := by
  have own : ∀ models : List Text, (models.map fun candidate =>
      ({ model := candidate, fromMapping := false } : DownstreamModelEntry)).map (·.model) =
        models := by
    intro models
    rw [List.map_map]
    exact List.map_id models
  rw [UpstreamConfig.effectiveDownstreamModels, UpstreamConfig.effectiveDownstreamModelsDetailed,
    List.map_append, List.mem_append, own]
  refine or_congr ?_ Iff.rfl
  simp only [List.map_map, List.mem_map, List.mem_filter, Function.comp]
  constructor
  · rintro ⟨mapping, ⟨member, live⟩, rfl⟩
    rw [sound.trim_upstream member, sound.trim_downstream member] at live
    simp only [ne_eq, Bool.and_eq_true, decide_eq_true_eq] at live
    obtain ⟨⟨filled, -⟩, found⟩ := live
    obtain ⟨stored, isStored⟩ := Option.isSome_iff_exists.mp found
    obtain ⟨listed, same⟩ := findEquivalentStored_spec isStored
    exact ⟨mapping, member, filled, ⟨stored, listed, same⟩, (sound.trim_downstream member).symm⟩
  · rintro ⟨mapping, member, filled, ⟨stored, listed, same⟩, rfl⟩
    refine ⟨mapping, ⟨member, ?_⟩, sound.trim_downstream member⟩
    have solid : Text.trim mapping.upstreamModel ≠ [] := by
      rw [sound.trim_upstream member]
      exact filled
    obtain ⟨first, found⟩ := @exists_findEquivalentStored true _ _ _ solid listed same
    rw [sound.trim_upstream member, sound.trim_downstream member, found]
    simp [filled, sound.paired mapping member filled]

theorem Sound.stored_of_resolved (sound : Sound upstream) (stocked : upstream.routeModels ≠ [])
    (resolved : upstream.resolvedModelNameWith name caseInsensitive = some (some stored)) :
    stored ∈ upstream.routeModels := by
  obtain ⟨filled, mapped | ⟨free, -⟩ | ⟨base, -, free, -⟩⟩ := sound.resolved_cases stocked resolved
  · obtain ⟨mapping, -, -, -, found⟩ :=
      (sound.mappedRouteModel_eq_some (trim_trim name) filled).mp mapped
    exact (findEquivalentStored_spec found).1
  · exact (mem_unoccupiedModels.mp free).1
  · exact (mem_unoccupiedModels.mp free).1

theorem Sound.resolved_of_own (sound : Sound upstream) (free : name ∈ upstream.unoccupiedModels) :
    ∃ stored ∈ upstream.unoccupiedModels,
      modelIdentityKeyWith stored caseInsensitive = modelIdentityKeyWith name caseInsensitive ∧
      upstream.resolvedModelNameWith name caseInsensitive = some (some stored) := by
  have listed := (mem_unoccupiedModels.mp free).1
  have trimmed := sound.models.trimmed name listed
  have filled := sound.models.filled name listed
  refine sound.resolved_own trimmed filled ?_ free rfl
  rw [Option.eq_none_iff_forall_ne_some]
  intro other mapped
  obtain ⟨mapping, member, named, same, -⟩ :=
    (sound.mappedRouteModel_eq_some trimmed filled).mp mapped
  exact sound.apart mapping member named name free (canonicalModelId_of_key same).symm

theorem Sound.resolved_of_mapping (sound : Sound upstream) {mapping : UpstreamModelMapping}
    (member : mapping ∈ upstream.modelMappings) (filled : mapping.upstreamModel ≠ [])
    (found : findEquivalentStored upstream.routeModels mapping.upstreamModel caseInsensitive =
      some stored) :
    upstream.resolvedModelNameWith mapping.downstreamModel caseInsensitive = some (some stored) := by
  have trimmed := sound.trim_downstream member
  have named := sound.paired mapping member filled
  have mapped : upstream.mappedRouteModel mapping.downstreamModel caseInsensitive = some stored :=
    (sound.mappedRouteModel_eq_some trimmed named).mpr ⟨mapping, member, filled, rfl, found⟩
  simp only [UpstreamConfig.resolvedModelNameWith, UpstreamConfig.canonicalRouteModel, trimmed,
    if_neg named, mapped]

-- Without folding, a mapping is followed exactly when its upstream model is stored as it is
-- written, unless the downstream name is that of a variant of an own model.
theorem Sound.resolved_exact (sound : Sound upstream) (stocked : upstream.routeModels ≠ [])
    {mapping : UpstreamModelMapping} (member : mapping ∈ upstream.modelMappings)
    (filled : mapping.upstreamModel ≠ []) :
    (∃ stored, upstream.resolvedModelNameWith mapping.downstreamModel false = some (some stored)) ↔
      mapping.upstreamModel ∈ upstream.routeModels ∨
        ∃ base, codexSubagentBaseModel mapping.downstreamModel = some (some base) ∧
          base ∈ upstream.unoccupiedModels := by
  have upstreamTrimmed := sound.trim_upstream member
  have trimmed := sound.trim_downstream member
  have named := sound.paired mapping member filled
  by_cases exact : mapping.upstreamModel ∈ upstream.routeModels
  · refine iff_of_true ?_ (Or.inl exact)
    obtain ⟨stored, found⟩ := @exists_findEquivalentStored false _ _ _
      (upstreamTrimmed.symm ▸ filled) exact rfl
    exact ⟨stored, sound.resolved_of_mapping member filled found⟩
  · rw [or_iff_right exact]
    refine resolved_variant stocked trimmed named ?_ ?_
    · rw [Option.eq_none_iff_forall_ne_some]
      intro other mapped
      obtain ⟨second, secondMember, secondFilled, same, found⟩ :=
        (sound.mappedRouteModel_eq_some trimmed named).mp mapped
      have one := sound.downstreams second secondMember mapping member secondFilled filled
        (canonicalModelId_of_key same)
      subst one
      obtain ⟨listed, spelled⟩ := findEquivalentStored_spec found
      have written : other = second.upstreamModel := by
        rw [← sound.models.trimmed other listed, ← upstreamTrimmed]
        exact spelled
      exact exact (written ▸ listed)
    · intro candidate free same
      exact sound.apart mapping member filled candidate free (canonicalModelId_of_key same)

theorem Sound.listed_of_stored (sound : Sound upstream) (listed : stored ∈ upstream.routeModels) :
    ∃ advertised ∈ upstream.effectiveDownstreamModels, ∃ reached,
      upstream.resolvedModelNameWith advertised true = some (some reached) ∧
        canonicalModelId reached = canonicalModelId stored := by
  by_cases free : stored ∈ upstream.unoccupiedModels
  · obtain ⟨reached, -, same, resolved⟩ := @Sound.resolved_of_own _ _ true sound free
    exact ⟨stored, sound.mem_effectiveDownstreamModels.mpr (Or.inr free), reached, resolved, same⟩
  · have occupied : ∃ mapping ∈ upstream.modelMappings,
        canonicalModelId (Text.trim mapping.upstreamModel) = canonicalModelId stored := by
      by_contra none
      refine free (mem_unoccupiedModels.mpr ⟨listed, fun mapping member same => ?_⟩)
      exact none ⟨mapping, member, same⟩
    obtain ⟨mapping, member, same⟩ := occupied
    rw [canonicalModelId_trim] at same
    have solid : Text.trim mapping.upstreamModel ≠ [] := by
      intro blank
      rw [canonicalModelId_eq_nil.mpr blank] at same
      exact sound.filled listed (canonicalModelId_eq_nil.mp same.symm)
    have filled : mapping.upstreamModel ≠ [] := by
      rw [← sound.trim_upstream member]
      exact solid
    obtain ⟨reached, found⟩ := @exists_findEquivalentStored true _ _ _ solid listed same.symm
    refine ⟨mapping.downstreamModel, sound.mem_effectiveDownstreamModels.mpr (Or.inl
      ⟨mapping, member, filled, ⟨stored, listed, same.symm⟩, rfl⟩), reached,
      sound.resolved_of_mapping member filled found, ?_⟩
    exact (findEquivalentStored_spec found).2.trans same

theorem splitPanics_congr {first second : Text}
    (same : canonicalModelId first = canonicalModelId second) :
    SplitPanics upstream first ↔ SplitPanics upstream second := by
  unfold SplitPanics
  rw [same, ← Option.isNone_iff_eq_none, ← Option.isNone_iff_eq_none,
    codexSubagentBaseModel_isNone_congr same]

theorem Sound.trim_advertised (sound : Sound upstream)
    (advertised : name ∈ upstream.effectiveDownstreamModels) : Text.trim name = name ∧ name ≠ [] := by
  rcases sound.mem_effectiveDownstreamModels.mp advertised with
    ⟨mapping, member, filled, -, rfl⟩ | free
  · exact ⟨sound.trim_downstream member, sound.paired mapping member filled⟩
  · have listed := (mem_unoccupiedModels.mp free).1
    exact ⟨sound.models.trimmed name listed, sound.models.filled name listed⟩

theorem Sound.distinct (sound : Sound upstream) {first second : Text}
    (firstListed : first ∈ upstream.effectiveDownstreamModels)
    (secondListed : second ∈ upstream.effectiveDownstreamModels)
    (firstMapped : upstream.mappedRouteModel first caseInsensitive = some stored)
    (secondMapped : upstream.mappedRouteModel second caseInsensitive = some stored) :
    modelsEquivalentWith first second caseInsensitive = true := by
  obtain ⟨firstTrimmed, firstFilled⟩ := sound.trim_advertised firstListed
  obtain ⟨secondTrimmed, secondFilled⟩ := sound.trim_advertised secondListed
  obtain ⟨mapping, member, filled, named, found⟩ :=
    (sound.mappedRouteModel_eq_some firstTrimmed firstFilled).mp firstMapped
  obtain ⟨other, otherMember, otherFilled, otherNamed, otherFound⟩ :=
    (sound.mappedRouteModel_eq_some secondTrimmed secondFilled).mp secondMapped
  have reached := (findEquivalentStored_spec found).2
  have otherReached := (findEquivalentStored_spec otherFound).2
  have one := sound.upstreams mapping member other otherMember filled otherFilled
    (canonicalModelId_of_key (reached.symm.trans otherReached))
  subst one
  refine (modelsEquivalentWith_iff (firstTrimmed.symm ▸ firstFilled)).mpr ?_
  exact named.symm.trans otherNamed

theorem Sound.complete (sound : Sound upstream) (stocked : upstream.routeModels ≠ [])
    (resolved : upstream.resolvedModelNameWith name caseInsensitive = some (some stored)) :
    ∃ advertised ∈ upstream.effectiveDownstreamModels,
      modelsEquivalentWith name advertised caseInsensitive = true ∨
        ∃ base, codexSubagentBaseModel name = some (some base) ∧
          modelsEquivalentWith base advertised caseInsensitive = true := by
  obtain ⟨filled, mapped | ⟨free, same⟩ | ⟨base, variant, free, same⟩⟩ :=
    sound.resolved_cases stocked resolved
  · obtain ⟨mapping, member, upstreamFilled, named, found⟩ :=
      (sound.mappedRouteModel_eq_some (trim_trim name) filled).mp mapped
    obtain ⟨listed, reached⟩ := findEquivalentStored_spec found
    rw [modelIdentityKeyWith_trim] at named
    refine ⟨mapping.downstreamModel, sound.mem_effectiveDownstreamModels.mpr (Or.inl
      ⟨mapping, member, upstreamFilled, ⟨stored, listed, canonicalModelId_of_key reached⟩, rfl⟩),
      Or.inl ?_⟩
    exact (modelsEquivalentWith_iff filled).mpr named.symm
  · refine ⟨stored, sound.mem_effectiveDownstreamModels.mpr (Or.inr free), Or.inl ?_⟩
    exact (modelsEquivalentWith_iff filled).mpr same.symm
  · refine ⟨stored, sound.mem_effectiveDownstreamModels.mpr (Or.inr free), Or.inr ⟨base, variant, ?_⟩⟩
    have solid : modelIdentityKeyWith stored caseInsensitive ≠ [] :=
      mt modelIdentityKeyWith_eq_nil.mp (sound.filled (mem_unoccupiedModels.mp free).1)
    refine (modelsEquivalentWith_iff fun blank => ?_).mpr same.symm
    exact solid (same.trans (modelIdentityKeyWith_eq_nil.mpr blank))

end Listing

/-- The listing of a stored and valid upstream keeps its promises, whichever way names are matched,
exactly when every live mapping has its upstream model as it is stored (or its downstream name is a
variant of an own model) and the key selection panics on no stored model. -/
theorem listing_holds_iff (config : UpstreamConfig)
    (valid : config.normalizeForStorage.validateConfiguration = .ok ())
    (stocked : config.normalizeForStorage.routeModels ≠ []) :
    ((∀ caseInsensitive, ListingHolds config.normalizeForStorage caseInsensitive) ∧
        config.normalizeForStorage.normalizeForStorage = config.normalizeForStorage) ↔
      (∀ mapping ∈ config.normalizeForStorage.modelMappings, mapping.upstreamModel ≠ [] →
        (∃ stored ∈ config.normalizeForStorage.routeModels,
          canonicalModelId stored = canonicalModelId mapping.upstreamModel) →
        mapping.upstreamModel ∈ config.normalizeForStorage.routeModels ∨
          ∃ base, codexSubagentBaseModel mapping.downstreamModel = some (some base) ∧
            base ∈ config.normalizeForStorage.unoccupiedModels) ∧
      ∀ model ∈ config.normalizeForStorage.routeModels,
        ¬SplitPanics config.normalizeForStorage model := by
  have sound := sound_of_valid config valid
  rw [and_iff_left config.normalizeForStorage_idem]
  generalize config.normalizeForStorage = upstream at sound stocked ⊢
  constructor
  · intro holds
    refine ⟨fun mapping member filled live => ?_, fun model listed panics => ?_⟩
    · obtain ⟨stored, -, resolved, -⟩ := (holds false).routed mapping.downstreamModel
        (sound.mem_effectiveDownstreamModels.mpr (Or.inl ⟨mapping, member, filled, live, rfl⟩))
      exact (sound.resolved_exact stocked member filled).mp ⟨stored, resolved⟩
    · obtain ⟨advertised, isListed, reached, resolved, same⟩ := sound.listed_of_stored listed
      obtain ⟨stored, storedListed, storedResolved, served⟩ := (holds true).routed advertised isListed
      have one : reached = stored := by
        rw [resolved] at storedResolved
        simpa using storedResolved
      subst one
      have keyed : upstream.availableKeys ≠ [] := by
        obtain ⟨-, entry, member, -⟩ := panics
        exact List.ne_nil_of_mem (sound.current entry member).2.2
      rcases (sound.keys_of_stored keyed storedListed).mp (served keyed) with contrary | calm
      · cases contrary
      · exact calm ((splitPanics_congr same).mpr panics)
  · rintro ⟨spelled, calm⟩ caseInsensitive
    refine ⟨fun name advertised => ?_, fun first firstListed second secondListed differ stored
      firstMapped secondMapped => ?_, fun name stored resolved => sound.complete stocked resolved⟩
    · have answers : ∃ stored,
          upstream.resolvedModelNameWith name caseInsensitive = some (some stored) := by
        rcases sound.mem_effectiveDownstreamModels.mp advertised with
          ⟨mapping, member, filled, live, rfl⟩ | free
        · cases caseInsensitive with
          | false =>
            exact (sound.resolved_exact stocked member filled).mpr
              (spelled mapping member filled live)
          | true =>
            obtain ⟨held, listed, same⟩ := live
            obtain ⟨stored, found⟩ := @exists_findEquivalentStored true _ _ _
              ((sound.trim_upstream member).symm ▸ filled) listed same
            exact ⟨stored, sound.resolved_of_mapping member filled found⟩
        · obtain ⟨stored, -, -, resolved⟩ := sound.resolved_of_own free
          exact ⟨stored, resolved⟩
      obtain ⟨stored, resolved⟩ := answers
      have listed := sound.stored_of_resolved stocked resolved
      exact ⟨stored, listed, resolved, fun keyed =>
        (sound.keys_of_stored keyed listed).mpr (Or.inr (calm stored listed))⟩
    · rw [sound.distinct firstListed secondListed firstMapped secondMapped] at differ
      cases differ

def renamingUpstream (upstreamModel : String) : UpstreamConfig where
  id := "upstream"
  apiKey := "key".toList
  supportedModels := ["gpt-5".toList]
  modelMappings := [⟨upstreamModel.toList, "fast".toList⟩]

theorem listing_holds_iff_renamed :
    (∀ caseInsensitive, ListingHolds (renamingUpstream "gpt-5").normalizeForStorage caseInsensitive) ∧
      (renamingUpstream "gpt-5").normalizeForStorage.normalizeForStorage =
        (renamingUpstream "gpt-5").normalizeForStorage := by
  have valid : (renamingUpstream "gpt-5").normalizeForStorage.validateConfiguration = .ok () := by
    decide +kernel
  have routeModels : (renamingUpstream "gpt-5").normalizeForStorage.routeModels =
      ["gpt-5".toList] := by
    decide +kernel
  refine (listing_holds_iff (renamingUpstream "gpt-5") valid (by simp [routeModels])).mpr ⟨?_, ?_⟩
  · intro mapping member _ _
    have only : (renamingUpstream "gpt-5").normalizeForStorage.modelMappings =
        [⟨"gpt-5".toList, "fast".toList⟩] := by
      decide +kernel
    rw [only, List.mem_singleton] at member
    subst member
    exact Or.inl (by rw [routeModels]; exact List.mem_cons_self)
  · intro model member panics
    rw [routeModels, List.mem_singleton] at member
    subst member
    exact absurd panics.1 (by decide +kernel)

/-- A mapping in another case is listed, but its name does not resolve when the case counts. -/
theorem listed_name_unresolved :
    (renamingUpstream "GPT-5").normalizeForStorage.validateConfiguration = .ok () ∧
      "fast".toList ∈ (renamingUpstream "GPT-5").normalizeForStorage.effectiveDownstreamModels ∧
      (renamingUpstream "GPT-5").normalizeForStorage.resolvedModelNameWith "fast".toList false =
        some none := by
  decide +kernel

end Models

end ChatGateway
