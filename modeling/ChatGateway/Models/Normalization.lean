import ChatGateway.Models.Upstream
import ChatGateway.Shared.Lists

set_option autoImplicit false

/-!
# Stored upstreams

What storing an upstream brings about, and that storing it again changes nothing.
-/

namespace ChatGateway.Models

section PushNew

variable {A : Type} [DecidableEq A]

theorem mem_pushNew {kept : List A} {item other : A} :
    other ∈ pushNew kept item ↔ other ∈ kept ∨ other = item := by
  unfold pushNew
  split
  next present =>
    constructor
    · exact Or.inl
    · rintro (held | rfl)
      · exact held
      · exact present
  next => simp

theorem nodup_pushNew {kept : List A} (nodup : kept.Nodup) (item : A) :
    (pushNew kept item).Nodup := by
  unfold pushNew
  split
  next => exact nodup
  next fresh => exact nodup_append_singleton nodup fresh

theorem nodup_foldl_pushNew {kept : List A} (nodup : kept.Nodup) (items : List A) :
    (items.foldl pushNew kept).Nodup := by
  induction items generalizing kept with
  | nil => exact nodup
  | cons item rest ih => exact ih (nodup_pushNew nodup item)

theorem foldl_pushNew_of_nodup {kept items : List A} (nodup : (kept ++ items).Nodup) :
    items.foldl pushNew kept = kept ++ items := by
  induction items generalizing kept with
  | nil => simp
  | cons item rest ih =>
    have fresh : item ∉ kept := fun held =>
      (List.nodup_append.mp nodup).2.2 item held item List.mem_cons_self rfl
    have next : pushNew kept item = kept ++ [item] := if_neg fresh
    rw [List.foldl_cons, next, ih (by simpa using nodup), List.append_assoc, List.singleton_append]

end PushNew

theorem dedupProtocols_idem (values : List UpstreamProtocol) :
    dedupProtocols (dedupProtocols values) = dedupProtocols values :=
  foldl_pushNew_of_nodup (nodup_foldl_pushNew List.nodup_nil values)

structure Clean (values : List Text) : Prop where
  trimmed : ∀ value ∈ values, Text.trim value = value
  filled : ∀ value ∈ values, value ≠ []
  nodup : values.Nodup

theorem clean_nil : Clean [] where
  trimmed := by simp
  filled := by simp
  nodup := List.nodup_nil

theorem Clean.pushText {kept : List Text} (clean : Clean kept) (value : Text) :
    Clean (pushText kept value) := by
  unfold Models.pushText
  split
  next => exact clean
  next filled =>
    refine ⟨fun other member => ?_, fun other member => ?_, nodup_pushNew clean.nodup _⟩
    · rcases mem_pushNew.mp member with held | rfl
      · exact clean.trimmed other held
      · exact trim_trim value
    · rcases mem_pushNew.mp member with held | rfl
      · exact clean.filled other held
      · exact filled

theorem clean_foldl_pushText {kept : List Text} (clean : Clean kept) (values : List Text) :
    Clean (values.foldl pushText kept) := by
  induction values generalizing kept with
  | nil => exact clean
  | cons value rest ih => exact ih (clean.pushText value)

theorem clean_normalizedStringList (values : List Text) : Clean (normalizedStringList values) :=
  clean_foldl_pushText clean_nil values

theorem mem_foldl_pushText {kept values : List Text} {text : Text} :
    text ∈ values.foldl pushText kept ↔
      text ∈ kept ∨ (text ≠ [] ∧ ∃ value ∈ values, Text.trim value = text) := by
  induction values generalizing kept with
  | nil => simp
  | cons value rest ih =>
    rw [List.foldl_cons, ih, List.exists_mem_cons_iff]
    unfold pushText
    split
    next blank =>
      rw [blank]
      constructor
      · rintro (held | ⟨filled, found⟩)
        · exact Or.inl held
        · exact Or.inr ⟨filled, Or.inr found⟩
      · rintro (held | ⟨filled, rfl | found⟩)
        · exact Or.inl held
        · exact absurd rfl filled
        · exact Or.inr ⟨filled, found⟩
    next solid =>
      rw [mem_pushNew]
      constructor
      · rintro ((held | rfl) | ⟨filled, found⟩)
        · exact Or.inl held
        · exact Or.inr ⟨solid, Or.inl rfl⟩
        · exact Or.inr ⟨filled, Or.inr found⟩
      · rintro (held | ⟨filled, rfl | found⟩)
        · exact Or.inl (Or.inl held)
        · exact Or.inl (Or.inr rfl)
        · exact Or.inr ⟨filled, found⟩

theorem mem_normalizedStringList {values : List Text} {text : Text} :
    text ∈ normalizedStringList values ↔ text ≠ [] ∧ ∃ value ∈ values, Text.trim value = text := by
  rw [normalizedStringList, mem_foldl_pushText]
  simp

theorem foldl_pushText_of_clean {kept values : List Text} (clean : Clean (kept ++ values)) :
    values.foldl pushText kept = kept ++ values := by
  have same : ∀ (kept values : List Text), (∀ value ∈ values, Text.trim value = value) →
      (∀ value ∈ values, value ≠ []) → values.foldl pushText kept = values.foldl pushNew kept := by
    intro kept values
    induction values generalizing kept with
    | nil => intros; rfl
    | cons value rest ih =>
      intro trimmed filled
      rw [List.forall_mem_cons] at trimmed filled
      have step : pushText kept value = pushNew kept value := by
        unfold pushText
        rw [trimmed.1, if_neg filled.1]
      rw [List.foldl_cons, List.foldl_cons, step, ih _ trimmed.2 filled.2]
  rw [same kept values (fun value member => clean.trimmed value (List.mem_append_right _ member))
    fun value member => clean.filled value (List.mem_append_right _ member)]
  exact foldl_pushNew_of_nodup clean.nodup

theorem Clean.normalized {values : List Text} (clean : Clean values) :
    normalizedStringList values = values :=
  foldl_pushText_of_clean clean

theorem normalizedStringList_idem (values : List Text) :
    normalizedStringList (normalizedStringList values) = normalizedStringList values :=
  (clean_normalizedStringList values).normalized

structure KeyTable (currentKeys : List Text) (entries : List ApiKeyModelConfig) : Prop where
  current : ∀ entry ∈ entries, entry.apiKey ∈ currentKeys
  clean : ∀ entry ∈ entries, Clean entry.supportedModels
  nodup : (entries.map (·.apiKey)).Nodup

section KeyModels

variable {currentKeys : List Text} {entries : List ApiKeyModelConfig}

theorem KeyTable.add (table : KeyTable currentKeys entries) (value : ApiKeyModelConfig) :
    KeyTable currentKeys (addKeyModels currentKeys entries value) := by
  unfold addKeyModels
  dsimp only
  split
  next => exact table
  next usable =>
    rw [not_or, not_not] at usable
    split
    next =>
      refine ⟨?_, ?_, ?_⟩
      · intro entry member
        obtain ⟨held, listed, rfl⟩ := List.mem_map.mp member
        split <;> exact table.current held listed
      · intro entry member
        obtain ⟨held, listed, rfl⟩ := List.mem_map.mp member
        split
        · exact clean_normalizedStringList _
        · exact table.clean held listed
      · have keys : ∀ entry : ApiKeyModelConfig,
            (if entry.apiKey = Text.trim value.apiKey then
              { entry with
                supportedModels := normalizedStringList
                  (entry.supportedModels ++ normalizedStringList value.supportedModels) }
            else entry).apiKey = entry.apiKey := by
          intro entry
          split <;> rfl
        rw [List.map_map]
        exact (List.map_congr_left fun entry _ => keys entry) ▸ table.nodup
    next fresh =>
      refine ⟨?_, ?_, ?_⟩
      · intro entry member
        rcases List.mem_append.mp member with held | last
        · exact table.current entry held
        · cases List.mem_singleton.mp last
          exact usable.2
      · intro entry member
        rcases List.mem_append.mp member with held | last
        · exact table.clean entry held
        · cases List.mem_singleton.mp last
          exact clean_normalizedStringList _
      · rw [List.map_append]
        exact nodup_append_singleton table.nodup fresh

theorem KeyTable.fold (table : KeyTable currentKeys entries) (values : List ApiKeyModelConfig) :
    KeyTable currentKeys (values.foldl (addKeyModels currentKeys) entries) := by
  induction values generalizing entries with
  | nil => exact table
  | cons value rest ih => exact ih (table.add value)

theorem keyTable_normalized (values : List ApiKeyModelConfig) (nodup : currentKeys.Nodup) :
    KeyTable currentKeys (normalizedApiKeyModels values currentKeys) := by
  have empty : KeyTable currentKeys [] := ⟨by simp, by simp, List.nodup_nil⟩
  have table := empty.fold values
  unfold normalizedApiKeyModels
  dsimp only
  generalize values.foldl (addKeyModels currentKeys) [] = folded at table
  refine ⟨?_, ?_, ?_⟩
  · intro entry member
    rcases List.mem_append.mp member with held | missing
    · exact table.current entry held
    · obtain ⟨key, listed, rfl⟩ := List.mem_map.mp missing
      exact (List.mem_filter.mp listed).1
  · intro entry member
    rcases List.mem_append.mp member with held | missing
    · exact table.clean entry held
    · obtain ⟨key, -, rfl⟩ := List.mem_map.mp missing
      exact clean_nil
  · rw [List.map_append, List.map_map]
    have keys : ((fun entry : ApiKeyModelConfig => entry.apiKey) ∘ fun apiKey =>
        ({ apiKey, supportedModels := [] } : ApiKeyModelConfig)) = id := rfl
    rw [keys, List.map_id, List.nodup_append]
    refine ⟨table.nodup, nodup.filter _, ?_⟩
    rintro key held other missing rfl
    simpa [held] using (List.mem_filter.mp missing).2

theorem current_mem_normalized (values : List ApiKeyModelConfig) {key : Text}
    (member : key ∈ currentKeys) :
    key ∈ (normalizedApiKeyModels values currentKeys).map (·.apiKey) := by
  unfold normalizedApiKeyModels
  dsimp only
  generalize values.foldl (addKeyModels currentKeys) [] = folded
  rw [List.map_append, List.mem_append]
  by_cases held : key ∈ folded.map (·.apiKey)
  · exact Or.inl held
  · refine Or.inr (List.mem_map.mpr ⟨⟨key, []⟩, List.mem_map.mpr ⟨key, ?_, rfl⟩, rfl⟩)
    exact List.mem_filter.mpr ⟨member, by simpa using held⟩

theorem foldl_addKeyModels {kept : List ApiKeyModelConfig} (keys : Clean currentKeys)
    (table : KeyTable currentKeys (kept ++ entries)) :
    entries.foldl (addKeyModels currentKeys) kept = kept ++ entries := by
  induction entries generalizing kept with
  | nil => simp
  | cons entry rest ih =>
    have listed : entry ∈ kept ++ entry :: rest := List.mem_append_right _ List.mem_cons_self
    have current := table.current entry listed
    have trimmed := keys.trimmed _ current
    have fresh : entry.apiKey ∉ kept.map (·.apiKey) := by
      have nodup := table.nodup
      rw [List.map_append] at nodup
      exact fun held =>
        (List.nodup_append.mp nodup).2.2 _ held _ List.mem_cons_self rfl
    have usable : ¬(entry.apiKey = [] ∨ entry.apiKey ∉ currentKeys) := by
      rw [not_or, not_not]
      exact ⟨keys.filled _ current, current⟩
    have step : addKeyModels currentKeys kept entry = kept ++ [entry] := by
      unfold addKeyModels
      simp only [trimmed]
      rw [if_neg usable, if_neg fresh, (table.clean entry listed).normalized]
    rw [List.foldl_cons, step, ih (by simpa using table), List.append_assoc, List.singleton_append]

theorem normalizedApiKeyModels_idem (keys : Clean currentKeys) (values : List ApiKeyModelConfig) :
    normalizedApiKeyModels (normalizedApiKeyModels values currentKeys) currentKeys =
      normalizedApiKeyModels values currentKeys := by
  have table := keyTable_normalized values keys.nodup
  have complete := fun key => @current_mem_normalized currentKeys values key
  generalize normalizedApiKeyModels values currentKeys = entries at table complete ⊢
  have folded : entries.foldl (addKeyModels currentKeys) [] = entries :=
    @foldl_addKeyModels currentKeys entries [] keys table
  unfold normalizedApiKeyModels
  simp only [folded]
  have missing : currentKeys.filter (· ∉ entries.map (·.apiKey)) = [] := by
    rw [List.filter_eq_nil_iff]
    intro key member
    simpa using complete key member
  rw [missing, List.map_nil, List.append_nil]

end KeyModels

theorem boundedReserve_idem (contextLimit outputReserve : Nat) :
    boundedReserve (max contextLimit 2) (boundedReserve (max contextLimit 2) outputReserve) =
      boundedReserve (max contextLimit 2) outputReserve := by
  unfold boundedReserve defaultModelContextOutputReserve
  split <;> split <;> omega

theorem ModelContextConfig.normalized_idem (config : ModelContextConfig) :
    config.normalized.normalized = config.normalized := by
  have limit : max (max config.contextLimit 2) 2 = max config.contextLimit 2 := by omega
  simp only [ModelContextConfig.normalized, trim_trim, limit, boundedReserve_idem]

theorem foldl_pushContext_of_normalized {kept values : List ModelContextConfig}
    (normalized : ∀ config ∈ values, config.normalized = config)
    (filled : ∀ config ∈ values, config.slug ≠ [])
    (nodup : ((kept ++ values).map (·.slug)).Nodup) :
    values.foldl pushContext kept = kept ++ values := by
  induction values generalizing kept with
  | nil => simp
  | cons config rest ih =>
    rw [List.forall_mem_cons] at normalized filled
    have slug : Text.trim config.slug = config.slug :=
      congrArg ModelContextConfig.slug normalized.1
    have fresh : config.slug ∉ kept.map (·.slug) := by
      rw [List.map_append] at nodup
      exact fun held => (List.nodup_append.mp nodup).2.2 _ held _ List.mem_cons_self rfl
    have step : pushContext kept config = kept ++ [config] := by
      unfold pushContext
      rw [slug, if_neg (not_or.mpr ⟨filled.1, fresh⟩), normalized.1]
    rw [List.foldl_cons, step, ih normalized.2 filled.2 (by simpa using nodup), List.append_assoc,
      List.singleton_append]

theorem normalizedModelContexts_idem (values : List ModelContextConfig) :
    normalizedModelContexts (normalizedModelContexts values) = normalizedModelContexts values := by
  let Ordered (kept : List ModelContextConfig) : Prop :=
    (∀ config ∈ kept, config.normalized = config ∧ config.slug ≠ []) ∧ (kept.map (·.slug)).Nodup
  have step : ∀ kept config, Ordered kept → Ordered (pushContext kept config) := by
    intro kept config ordered
    unfold pushContext
    split
    next => exact ordered
    next usable =>
      rw [not_or] at usable
      refine ⟨fun other member => ?_, ?_⟩
      · rcases List.mem_append.mp member with held | last
        · exact ordered.1 other held
        · cases List.mem_singleton.mp last
          exact ⟨config.normalized_idem, usable.1⟩
      · rw [List.map_append]
        exact nodup_append_singleton ordered.2 usable.2
  have ordered : ∀ (values kept : List ModelContextConfig), Ordered kept →
      Ordered (values.foldl pushContext kept) := by
    intro values
    induction values with
    | nil => exact fun _ held => held
    | cons config rest ih => exact fun kept held => ih _ (step kept config held)
  obtain ⟨each, nodup⟩ := ordered values [] ⟨by simp, List.nodup_nil⟩
  exact @foldl_pushContext_of_normalized [] _ (fun config member => (each config member).1)
    (fun config member => (each config member).2) nodup

theorem normalizedDefaultModelContext_idem (value : Option DefaultModelContextConfig) :
    normalizedDefaultModelContext (normalizedDefaultModelContext value) =
      normalizedDefaultModelContext value := by
  cases value with
  | none => rfl
  | some context =>
    unfold normalizedDefaultModelContext
    simp only [Option.bind_some]
    split
    next => rfl
    next =>
      have positive : ¬max context.contextLimit 2 = 0 := by omega
      have limit : max (max context.contextLimit 2) 2 = max context.contextLimit 2 := by omega
      simp only [Option.bind_some, if_neg positive, limit, boundedReserve_idem, trim_trim]

def TrimmedPresets (presets : OrderedMap Text Text) : Prop :=
  ∀ entry ∈ presets.entries, Text.trim entry.1 = entry.1 ∧ Text.trim entry.2 = entry.2 ∧
    entry.1 ≠ [] ∧ entry.2 ≠ []

theorem TrimmedPresets.put {presets : OrderedMap Text Text} (trimmed : TrimmedPresets presets)
    (entry : Text × Text) : TrimmedPresets (putPreset presets entry) := by
  unfold putPreset
  split
  next filled =>
    intro held member
    rcases OrderedMap.mem_putIn member with rfl | earlier
    · exact ⟨trim_trim _, trim_trim _, filled.1, filled.2⟩
    · exact trimmed held earlier
  next => exact trimmed

theorem TrimmedPresets.fold {presets : OrderedMap Text Text} (trimmed : TrimmedPresets presets)
    (entries : List (Text × Text)) : TrimmedPresets (entries.foldl putPreset presets) := by
  induction entries generalizing presets with
  | nil => exact trimmed
  | cons entry rest ih => exact ih (trimmed.put entry)

theorem TrimmedPresets.fixed {presets : OrderedMap Text Text} (trimmed : TrimmedPresets presets) :
    presets.entries.foldl putPreset {} = presets := by
  have same : ∀ (entries : List (Text × Text)) (built : OrderedMap Text Text),
      (∀ entry ∈ entries, Text.trim entry.1 = entry.1 ∧ Text.trim entry.2 = entry.2 ∧
        entry.1 ≠ [] ∧ entry.2 ≠ []) →
      entries.foldl putPreset built =
        entries.foldl (fun built entry => built.put entry.1 entry.2) built := by
    intro entries
    induction entries with
    | nil => intros; rfl
    | cons entry rest ih =>
      intro built clean
      rw [List.forall_mem_cons] at clean
      obtain ⟨⟨pattern, preset, filled⟩, later⟩ := clean
      have step : putPreset built entry = built.put entry.1 entry.2 := by
        unfold putPreset
        rw [pattern, preset, if_pos filled]
      rw [List.foldl_cons, List.foldl_cons, step, ih _ later]
  rw [same _ _ trimmed, OrderedMap.foldl_put_entries]

namespace UpstreamConfig

variable (upstream : UpstreamConfig)

theorem storedProtocols_fixed (protocol : UpstreamProtocol) (values : List UpstreamProtocol) :
    let stored := if dedupProtocols values = [] then [protocol] else dedupProtocols values
    dedupProtocols stored = stored ∧ stored ≠ [] := by
  dsimp only
  split
  next => exact ⟨rfl, List.cons_ne_nil _ _⟩
  next filled => exact ⟨dedupProtocols_idem values, filled⟩

theorem normalizeForStorage_idem :
    upstream.normalizeForStorage.normalizeForStorage = upstream.normalizeForStorage := by
  have keys : Clean (normalizedCurrentKeys (Text.trim upstream.apiKey)
      (normalizedStringList upstream.apiKeys)) := clean_normalizedStringList _
  obtain ⟨protocols, filled⟩ := storedProtocols_fixed upstream.protocol upstream.protocols
  have table : upstream.normalizeForStorage.normalizeForStorage.apiKeyModels =
      upstream.normalizeForStorage.apiKeyModels := by
    by_cases unset : upstream.apiKeyModels = []
    · simp [normalizeForStorage, unset]
    · simp only [normalizeForStorage, if_neg unset, trim_trim, normalizedStringList_idem,
        normalizedApiKeyModels_idem keys]
      split <;> simp_all
  ext1
  case apiKeyModels => exact table
  case protocols => simp only [normalizeForStorage, protocols, if_neg filled]
  case protocol => simp only [normalizeForStorage, protocols, if_neg filled]
  case remark => exact trim_trim _
  case apiKey => exact trim_trim _
  case apiKeys => exact normalizedStringList_idem _
  case modelContexts => exact normalizedModelContexts_idem _
  case defaultModelContext => exact normalizedDefaultModelContext_idem _
  case modelMappings =>
    simp only [normalizeForStorage, List.map_map]
    refine List.map_congr_left fun mapping _ => ?_
    simp only [Function.comp, UpstreamModelMapping.trimmed, trim_trim]
  case modelDialectPresets =>
    have empty : TrimmedPresets {} := fun entry member => nomatch member
    exact (empty.fold upstream.modelDialectPresets.entries).fixed
  case continuationProviderGroup =>
    simp only [normalizeForStorage]
    cases upstream.continuationProviderGroup with
    | none => rfl
    | some group =>
      by_cases blank : Text.trim group = [] <;> simp [Option.filter, blank, trim_trim]
  case supportedModels =>
    by_cases unset : upstream.apiKeyModels = []
    · simp [normalizeForStorage, unset, normalizedStringList_idem]
    · by_cases bare : upstream.normalizeForStorage.apiKeyModels = []
      · -- without a current key nothing is listed
        have none : upstream.normalizeForStorage.supportedModels = [] := by
          have derived : upstream.normalizeForStorage.supportedModels =
              deriveSupportedModels upstream.normalizeForStorage.apiKeyModels := by
            simp [normalizeForStorage, unset]
          rw [derived, bare]
          rfl
        rw [normalizeForStorage]
        simp only [bare, if_true, none]
        rfl
      · have derived : ∀ stored : UpstreamConfig, stored.apiKeyModels ≠ [] →
            stored.normalizeForStorage.supportedModels =
              deriveSupportedModels stored.normalizeForStorage.apiKeyModels := by
          intro stored listed
          simp only [normalizeForStorage, if_neg listed]
        rw [derived _ bare, table, derived _ unset]
  all_goals rfl

end UpstreamConfig

end ChatGateway.Models
