import ChatGateway.Capabilities.Policy

set_option autoImplicit false

/-!
# Accepted configurations

What a configuration that compiles has passed, and where its compiled entries come from.
-/

namespace ChatGateway

section Acceptance

variable {libraries : PolicyLibraries} {configuration : CapabilityConfiguration}

structure Validated (libraries : PolicyLibraries) (configuration : CapabilityConfiguration) :
    Prop where
  schema : configuration.schemaVersion = capabilitySchemaVersion
  bounds : validateResourceBounds libraries configuration = .ok ()
  ids : validateIds configuration = .ok ()
  fixtures : validateFixtures libraries configuration = .ok ()
  extensions : validateExtensions libraries configuration = .ok ()
  routeTags : validateRouteTags configuration = .ok ()
  reasoning : validateReasoningOverrides configuration = .ok ()

theorem validate_eq_ok :
    configuration.validate libraries = .ok () ↔ Validated libraries configuration := by
  simp only [CapabilityConfiguration.validate, Checks.then_eq_ok, Checks.reject_eq_ok, not_not]
  constructor
  · rintro ⟨schema, bounds, ids, fixtures, extensions, routeTags, reasoning⟩
    exact ⟨schema, bounds, ids, fixtures, extensions, routeTags, reasoning⟩
  · rintro ⟨schema, bounds, ids, fixtures, extensions, routeTags, reasoning⟩
    exact ⟨schema, bounds, ids, fixtures, extensions, routeTags, reasoning⟩

structure Entries where
  policies : List (Compiled CapabilityPolicy)
  routeOverrides : List (Compiled RouteCapabilityOverride)
  routeTags : List (Compiled RouteTagAssignment)
  expectations : List CompiledExpectation

structure Compiles (libraries : PolicyLibraries) (configuration : CapabilityConfiguration)
    (entries : Entries) : Prop where
  validated : Validated libraries configuration
  policies : compileEntries libraries (·.id) (·.selector) configuration.policies =
    .ok entries.policies
  routeOverrides : compileEntries libraries (·.id) (·.selector) configuration.routeOverrides =
    .ok entries.routeOverrides
  routeTags : compileEntries libraries (·.id) (·.selector) configuration.routeTags =
    .ok entries.routeTags
  expectations : Checks.build (compileExpectation libraries configuration.bundles)
    configuration.compatibilityExpectations = .ok entries.expectations
  policyConflicts : validatePolicyConflicts entries.policies = .ok ()
  overrideConflicts : validateOverrideConflicts entries.routeOverrides = .ok ()

def Entries.compiled (configuration : CapabilityConfiguration) (entries : Entries) :
    CompiledCapabilityConfiguration where
  source := configuration
  policies := sortEntries policyRank (·.id) entries.policies
  routeOverrides := sortEntries overrideRank (·.id) entries.routeOverrides
  routeTags := entries.routeTags
  expectations := entries.expectations

theorem compile_eq_ok {compiled : CompiledCapabilityConfiguration} :
    configuration.compile libraries = .ok compiled ↔
      ∃ entries, Compiles libraries configuration entries ∧
        entries.compiled configuration = compiled := by
  rw [CapabilityConfiguration.compile, Checks.then_eq_ok, validate_eq_ok]
  simp only [Except.bind_eq_ok]
  constructor
  · rintro ⟨validated, policies, isPolicies, routeOverrides, isOverrides, routeTags, isTags,
      expectations, isExpectations, ⟨⟩, policyConflicts, ⟨⟩, overrideConflicts, same⟩
    exact ⟨⟨policies, routeOverrides, routeTags, expectations⟩,
      ⟨validated, isPolicies, isOverrides, isTags, isExpectations, policyConflicts,
        overrideConflicts⟩, Except.ok.inj same⟩
  · rintro ⟨⟨policies, routeOverrides, routeTags, expectations⟩,
      ⟨validated, isPolicies, isOverrides, isTags, isExpectations, policyConflicts,
        overrideConflicts⟩, rfl⟩
    exact ⟨validated, policies, isPolicies, routeOverrides, isOverrides, routeTags, isTags,
      expectations, isExpectations, (), policyConflicts, (), overrideConflicts, rfl⟩

section Built

variable {compiled : CompiledCapabilityConfiguration}

def CompilesTo {S : Type} (libraries : PolicyLibraries) (id : S → String)
    (selector : S → CapabilitySelector) (entry : S) (built : Compiled S) : Prop :=
  built.source = entry ∧
    CompiledSelector.compile libraries (id entry) (selector entry) = .ok built.selector

theorem compileEntries_eq_ok {S : Type} {id : S → String} {selector : S → CapabilitySelector}
    {entries : List S} {built : List (Compiled S)} :
    compileEntries libraries id selector entries = .ok built ↔
      List.Forall₂ (CompilesTo libraries id selector) entries built := by
  rw [compileEntries, Checks.build_eq_ok]
  have same : ∀ entry compiled,
      (CompiledSelector.compile libraries (id entry) (selector entry)).map
          (fun compiled => ({ source := entry, selector := compiled } : Compiled S)) = .ok compiled ↔
        CompilesTo libraries id selector entry compiled := by
    intro entry compiled
    rw [Except.map_eq_ok]
    constructor
    · rintro ⟨selector, isCompiled, rfl⟩
      exact ⟨rfl, isCompiled⟩
    · rintro ⟨rfl, isCompiled⟩
      exact ⟨compiled.selector, isCompiled, rfl⟩
  simp only [same]

theorem sources_of_compileEntries {S : Type} {id : S → String} {selector : S → CapabilitySelector}
    {entries : List S} {built : List (Compiled S)}
    (isBuilt : compileEntries libraries id selector entries = .ok built) :
    built.map (·.source) = entries := by
  have related := compileEntries_eq_ok.mp isBuilt
  clear isBuilt
  induction related with
  | nil => rfl
  | cons first _ ih => rw [List.map_cons, ih, first.1]

theorem sortEntries_perm {S : Type} (rank : Compiled S → Rank) (id : S → String)
    (entries : List (Compiled S)) : (sortEntries rank id entries).Perm entries :=
  List.perm_insertionSort _ _

theorem source_mem_of_sorted {S : Type} {id : S → String} {selector : S → CapabilitySelector}
    {rank : Compiled S → Rank} {entries : List S} {built : List (Compiled S)}
    (isBuilt : compileEntries libraries id selector entries = .ok built) {entry : Compiled S}
    (member : entry ∈ sortEntries rank id built) : entry.source ∈ entries := by
  rw [← sources_of_compileEntries isBuilt]
  exact List.mem_map_of_mem ((sortEntries_perm rank id built).mem_iff.mp member)

theorem matchingPolicies_subset (accepted : configuration.compile libraries = .ok compiled)
    {route : RouteIdentity} {policy : CapabilityPolicy}
    (member : policy ∈ compiled.matchingPolicies route) : policy ∈ configuration.policies := by
  obtain ⟨entries, compiles, rfl⟩ := compile_eq_ok.mp accepted
  obtain ⟨entry, matching, rfl⟩ := List.mem_map.mp member
  exact source_mem_of_sorted compiles.policies (List.mem_filter.mp matching).1

theorem routeOverridesFor_subset (accepted : configuration.compile libraries = .ok compiled)
    {route : RouteIdentity} {routeOverride : RouteCapabilityOverride}
    (member : routeOverride ∈ compiled.routeOverridesFor route) :
    routeOverride ∈ configuration.routeOverrides := by
  obtain ⟨entries, compiles, rfl⟩ := compile_eq_ok.mp accepted
  obtain ⟨entry, matching, rfl⟩ := List.mem_map.mp member
  exact source_mem_of_sorted compiles.routeOverrides (List.mem_filter.mp matching).1

theorem validated_of_compile (accepted : configuration.compile libraries = .ok compiled) :
    Validated libraries configuration := by
  obtain ⟨entries, compiles, -⟩ := compile_eq_ok.mp accepted
  exact compiles.validated

end Built

theorem Validated.controlField_iff (validated : Validated libraries configuration)
    {routeOverride : RouteCapabilityOverride} (member : routeOverride ∈ configuration.routeOverrides) :
    routeOverride.reasoningControlField.isSome = !routeOverride.effortMap.isEmpty := by
  have checked := Checks.each_eq_ok.mp validated.reasoning routeOverride member
  unfold validateReasoningOverride at checked
  cases named : routeOverride.reasoningControlField <;>
    cases empty : routeOverride.effortMap.isEmpty <;> simp_all

theorem unprotected_of_validatePatchFields {id parentPath : String} {fields : List (String × Json)}
    (checked : validatePatchFields libraries id parentPath fields = .ok ()) {key : String}
    {value : Json} (member : (key, value) ∈ fields) :
    isProtectedRequestPath (parentPath ++ "/" ++ escapeJsonPointerSegment key) = false := by
  induction fields with
  | nil => cases member
  | cons field rest ih =>
    obtain ⟨name, held⟩ := field
    simp only [validatePatchFields, Checks.then_eq_ok, Checks.reject_eq_ok] at checked
    obtain ⟨free, -, later⟩ := checked
    rcases List.mem_cons.mp member with same | member
    · cases same
      simpa using free
    · exact ih later member

theorem Validated.patch (validated : Validated libraries configuration)
    {case : DeclarativeProbeCase} (member : case ∈ configuration.extensionProbes) :
    validateRequestPatch libraries case.id "" case.requestPatch = .ok () := by
  have checked := Checks.each_eq_ok.mp validated.extensions case member
  simp only [validateExtension, Checks.then_eq_ok] at checked
  exact checked.2.2

end Acceptance

def plainLibraries : PolicyLibraries where
  glob := fun _ => .error "error parsing glob"
  parseUrl := fun _ => none
  configurationSize := fun _ => 1_024
  caseSize := fun _ => 256

end ChatGateway
