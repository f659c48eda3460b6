import ChatGateway.Protocol.ToolAdapter
import ChatGateway.Shared.Fallible

set_option autoImplicit false

/-!
# Upstream names are one to one

Every declared tool is given one name, no two tools share one, and a plain function keeps its own.
-/

namespace ChatGateway

section Generated

variable {sha256 : Sha256} {identity : ToolIdentity} {occupied : List String}

theorem generatedNameFrom_candidate (steps suffixLen : Nat) : ∃ digits : Nat,
    generatedNameFrom sha256 identity occupied steps suffixLen =
      nameCandidate sha256 identity (if digits = 0 then suffixLen
        else min (suffixLen + 4 * digits) 56) := by
  induction steps generalizing suffixLen with
  | zero => exact ⟨0, rfl⟩
  | succ steps ih =>
    rw [generatedNameFrom]
    split
    · exact ⟨0, rfl⟩
    · obtain ⟨digits, reached⟩ := ih (min (suffixLen + 4) 56)
      refine ⟨digits + 1, reached.trans (congrArg _ ?_)⟩
      by_cases none : digits = 0
      · simp [none]
      · rw [if_neg none, if_neg (Nat.succ_ne_zero digits)]
        omega

theorem nameCandidate_occupied {steps suffixLen : Nat} (enough : 56 ≤ suffixLen + 4 * steps)
    (within : suffixLen ≤ 56)
    (taken : generatedNameFrom sha256 identity occupied steps suffixLen ∈ occupied) (digits : Nat) :
    nameCandidate sha256 identity (min (suffixLen + 4 * digits) 56) ∈ occupied := by
  induction steps generalizing suffixLen digits with
  | zero =>
    have last : min (suffixLen + 4 * digits) 56 = suffixLen := by omega
    rw [last]
    exact taken
  | succ steps ih =>
    rw [generatedNameFrom] at taken
    split at taken
    · next returned =>
      have ended : 56 ≤ suffixLen := by simpa [taken] using returned
      have last : min (suffixLen + 4 * digits) 56 = suffixLen := by omega
      rw [last]
      exact taken
    · next refused =>
      have here : nameCandidate sha256 identity suffixLen ∈ occupied := by
        by_contra free
        exact refused (by simp [free])
      cases digits with
      | zero => simpa [within] using here
      | succ digits =>
        have later := ih (by omega) (by omega) taken digits
        have same : min (min (suffixLen + 4) 56 + 4 * digits) 56 =
            min (suffixLen + 4 * (digits + 1)) 56 := by omega
        rwa [same] at later

theorem generatedName_occupied
    (taken : generatedName sha256 identity 12 occupied ∈ occupied) {suffixLen : Nat}
    (tried : suffixLen ∈ suffixLengths) :
    generatedName sha256 identity suffixLen occupied ∈ occupied := by
  obtain ⟨reached, rfl⟩ : ∃ reached, suffixLen = min (12 + 4 * reached) 56 := by
    refine ⟨(suffixLen - 12) / 4, ?_⟩
    simp only [suffixLengths, List.mem_cons, List.not_mem_nil, or_false] at tried
    omega
  unfold generatedName
  obtain ⟨digits, candidate⟩ := @generatedNameFrom_candidate sha256 identity occupied 11
    (min (max (min (12 + 4 * reached) 56) 12) 56)
  rw [candidate]
  have known := nameCandidate_occupied (by omega) (by omega) taken (reached + digits)
  split
  · next none =>
    have same : min (max (min (12 + 4 * reached) 56) 12) 56 =
        min (min (max 12 12) 56 + 4 * (reached + digits)) 56 := by omega
    rw [same]
    exact known
  · have same : min (min (max (min (12 + 4 * reached) 56) 12) 56 + 4 * digits) 56 =
        min (min (max 12 12) 56 + 4 * (reached + digits)) 56 := by omega
    rw [same]
    exact known

theorem assignedUpstreamName_fresh {name : String}
    (assigned : assignedUpstreamName sha256 identity occupied = .ok name) : name ∉ occupied := by
  unfold assignedUpstreamName at assigned
  split at assigned
  · next kept =>
    cases assigned
    simp only [preservesOriginal, Bool.and_eq_true, decide_eq_true_eq] at kept
    exact kept.2
  · split at assigned
    · next found =>
      cases assigned
      simpa using List.find?_some found
    · cases assigned

theorem name_taken {name : String} (kind : identity.kind ≠ .namespaceMember)
    (assigned : assignedUpstreamName sha256 identity occupied = .ok name) :
    identity.name = name ∨ identity.name ∈ occupied := by
  by_cases free : identity.name ∈ occupied
  · exact .inr free
  · left
    have kept : preservesOriginal identity occupied = true := by
      cases same : identity.kind <;> simp_all [preservesOriginal]
    rw [assignedUpstreamName, if_pos kept] at assigned
    exact Except.ok.inj assigned

theorem assigned_namespaceMember {name : String} (kind : identity.kind = .namespaceMember)
    (assigned : assignedUpstreamName sha256 identity occupied = .ok name) :
    name = generatedName sha256 identity 12 occupied := by
  have renamed : preservesOriginal identity occupied = false := by
    simp [preservesOriginal, kind]
  rw [assignedUpstreamName, renamed] at assigned
  by_cases free : generatedName sha256 identity 12 occupied ∈ occupied
  · have none : (suffixLengths.map (generatedName sha256 identity · occupied)).find?
        (· ∉ occupied) = none := by
      simp only [List.find?_eq_none, List.forall_mem_map, decide_eq_true_eq, not_not]
      exact fun suffixLen tried => generatedName_occupied free tried
    rw [none] at assigned
    cases assigned
  · simp [suffixLengths, free] at assigned
    exact assigned.symm

end Generated
theorem canonicalSortKey_injective : Function.Injective canonicalSortKey := by
  rintro ⟨firstKind, firstGroup, firstName⟩ ⟨secondKind, secondGroup, secondName⟩ same
  have parts := (toLex_inj.1 same)
  simp only [Prod.mk.injEq, toLex_inj] at parts
  obtain ⟨rank, rfl, rfl⟩ := parts
  have kind : firstKind = secondKind := by
    cases firstKind <;> cases secondKind <;> simp_all [kindRank]
  rw [kind]

def canonicalLe (left right : ToolIdentity) : Prop :=
  canonicalSortKey left ≤ canonicalSortKey right

instance : DecidableRel canonicalLe := fun left right =>
  inferInstanceAs (Decidable (canonicalSortKey left ≤ canonicalSortKey right))

instance : Std.Total canonicalLe := ⟨fun _ _ => le_total _ _⟩

instance : IsTrans ToolIdentity canonicalLe := ⟨fun _ _ _ => le_trans⟩

instance : Std.Antisymm canonicalLe :=
  ⟨fun _ _ below above => canonicalSortKey_injective (le_antisymm below above)⟩

variable (identities : List ToolIdentity)

theorem canonicalOrder_eq_dedup : canonicalOrder identities =
    (identities.insertionSort fun left right =>
      canonicalSortKey left ≤ canonicalSortKey right).dedup :=
  (List.pairwise_insertionSort canonicalLe identities).destutter_eq_dedup

theorem canonicalOrder_nodup : (canonicalOrder identities).Nodup := by
  rw [canonicalOrder_eq_dedup]
  exact List.nodup_dedup _

theorem mem_canonicalOrder {identity : ToolIdentity} :
    identity ∈ canonicalOrder identities ↔ identity ∈ identities := by
  rw [canonicalOrder_eq_dedup, List.mem_dedup, List.mem_insertionSort]

theorem canonicalOrder_sorted : (canonicalOrder identities).Pairwise canonicalLe :=
  (List.pairwise_insertionSort canonicalLe identities).sublist (List.destutter_sublist _ _)

-- Of two tools in the canonical order, the one with the smaller key stands before the other.
theorem canonicalOrder_split {identities} {first second : ToolIdentity}
    (below : canonicalSortKey first < canonicalSortKey second) {before after : List ToolIdentity}
    (split : canonicalOrder identities = before ++ second :: after)
    (declared : first ∈ identities) : first ∈ before := by
  have member := (mem_canonicalOrder identities).2 declared
  have sorted := canonicalOrder_sorted identities
  rw [split] at member sorted
  rcases List.mem_append.1 member with here | there
  · exact here
  · rcases List.mem_cons.1 there with rfl | later
    · exact absurd below (lt_irrefl _)
    · have above := (List.pairwise_cons.1 (List.pairwise_append.1 sorted).2.1).1 first later
      exact absurd below (not_lt_of_ge above)

section Mappings

variable {sha256 : Sha256}

theorem assignNames_append (first second : List ToolIdentity) (mappings : List ToolMapping) :
    assignNames sha256 (first ++ second) mappings =
      assignNames sha256 first mappings >>= assignNames sha256 second := by
  induction first generalizing mappings with
  | nil => rfl
  | cons identity rest ih =>
    rw [List.cons_append, assignNames, assignNames]
    cases assignedUpstreamName sha256 identity (mappings.map (·.upstreamName)) with
    | error failure => rfl
    | ok name => exact ih _

theorem assignNames_cons {identity : ToolIdentity} {rest : List ToolIdentity}
    {mappings result : List ToolMapping}
    (assigned : assignNames sha256 (identity :: rest) mappings = .ok result) :
    ∃ name, assignedUpstreamName sha256 identity (mappings.map (·.upstreamName)) = .ok name ∧
      assignNames sha256 rest (mappings ++ [{ identity, upstreamName := name }]) = .ok result := by
  rw [assignNames] at assigned
  split at assigned
  · cases assigned
  · next name known => exact ⟨name, known, assigned⟩

theorem assignNames_identities {identities : List ToolIdentity} {mappings result : List ToolMapping}
    (assigned : assignNames sha256 identities mappings = .ok result) :
    result.map (·.identity) = mappings.map (·.identity) ++ identities := by
  induction identities generalizing mappings with
  | nil =>
    cases assigned
    simp
  | cons identity rest ih =>
    obtain ⟨name, -, later⟩ := assignNames_cons assigned
    rw [ih later]
    simp

theorem assignNames_nodup {identities : List ToolIdentity} {mappings result : List ToolMapping}
    (distinct : (mappings.map (·.upstreamName)).Nodup)
    (assigned : assignNames sha256 identities mappings = .ok result) :
    (result.map (·.upstreamName)).Nodup := by
  induction identities generalizing mappings with
  | nil =>
    cases assigned
    exact distinct
  | cons identity rest ih =>
    obtain ⟨name, known, later⟩ := assignNames_cons assigned
    refine ih ?_ later
    have fresh := assignedUpstreamName_fresh known
    rw [List.map_append, List.map_singleton, List.nodup_append]
    refine ⟨distinct, List.nodup_singleton _, ?_⟩
    intro taken member other same clash
    rw [List.mem_singleton] at same
    exact fresh (by rwa [clash, same] at member)

theorem assignNames_prefix {identities : List ToolIdentity} {mappings result : List ToolMapping}
    (assigned : assignNames sha256 identities mappings = .ok result) :
    ∃ added, result = mappings ++ added := by
  induction identities generalizing mappings with
  | nil =>
    cases assigned
    exact ⟨[], by simp⟩
  | cons identity rest ih =>
    obtain ⟨name, -, later⟩ := assignNames_cons assigned
    obtain ⟨added, rfl⟩ := ih later
    exact ⟨{ identity, upstreamName := name } :: added, by simp⟩

theorem assignNames_taken {identities : List ToolIdentity} {mappings result : List ToolMapping}
    (assigned : assignNames sha256 identities mappings = .ok result) {identity : ToolIdentity}
    (kind : identity.kind ≠ .namespaceMember) (member : identity ∈ identities) :
    identity.name ∈ result.map (·.upstreamName) := by
  induction identities generalizing mappings with
  | nil => cases member
  | cons head rest ih =>
    obtain ⟨name, known, later⟩ := assignNames_cons assigned
    rcases List.mem_cons.1 member with rfl | member
    · obtain ⟨added, rfl⟩ := assignNames_prefix later
      rcases name_taken kind known with same | occupied
      · simp [same]
      · obtain ⟨mapping, known, same⟩ := List.mem_map.1 occupied
        exact List.mem_map.2 ⟨mapping, by simp [known], same⟩
    · exact ih later member

end Mappings

def ToolIdentity.Formed (identity : ToolIdentity) : Prop :=
  match identity.kind with
  | .function => identity.group = none
  | .custom => True
  | .namespaceMember => identity.group.isSome

def namesBefore (sha256 : Sha256) (declared : List ToolIdentity) (tool : ToolIdentity) :
    List String :=
  match assignNames sha256 ((canonicalOrder declared).takeWhile (· ≠ tool)) [] with
  | .ok mappings => mappings.map (·.upstreamName)
  | .error _ => []

/-- A plain function always does, a custom tool if the name is still free, a namespace member only
if the name generated for it is its own. -/
def KeepsOwnName (sha256 : Sha256) (declared : List ToolIdentity) (tool : ToolIdentity) : Prop :=
  match tool.kind with
  | .function => True
  | .custom => tool.name ∉ namesBefore sha256 declared tool
  | .namespaceMember =>
    generatedName sha256 tool 12 (namesBefore sha256 declared tool) = tool.name

theorem find?_eq_some_iff_of_nodup {A B : Type} [DecidableEq B] {items : List A} {key : A → B}
    (distinct : (items.map key).Nodup) {wanted : B} {item : A} :
    items.find? (fun item => key item = wanted) = some item ↔ item ∈ items ∧ key item = wanted := by
  constructor
  · intro found
    exact ⟨List.mem_of_find?_eq_some found, by simpa using List.find?_some found⟩
  · rintro ⟨member, rfl⟩
    cases found : items.find? fun other => key other = key item with
    | none => simpa using List.find?_eq_none.1 found item member
    | some other =>
      have same : key other = key item := by simpa using List.find?_some found
      rw [List.inj_on_of_nodup_map distinct (List.mem_of_find?_eq_some found) member same]

theorem ToolIdentity.function_ext {first second : ToolIdentity}
    (shape : first.kind = .function ∧ first.group = none)
    (other : second.kind = .function ∧ second.group = none) (same : first.name = second.name) :
    first = second := by
  obtain ⟨firstKind, firstGroup, firstName⟩ := first
  obtain ⟨secondKind, secondGroup, secondName⟩ := second
  simp_all

theorem assignNames_functions {sha256 : Sha256} {identities : List ToolIdentity}
    {mappings result : List ToolMapping}
    (own : ∀ mapping ∈ mappings, mapping.upstreamName = mapping.identity.name ∧
      mapping.identity.kind = .function ∧ mapping.identity.group = none)
    (functions : ∀ identity ∈ identities, identity.kind = .function ∧ identity.group = none)
    (distinct : (mappings.map (·.identity) ++ identities).Nodup)
    (assigned : assignNames sha256 identities mappings = .ok result) :
    ∀ mapping ∈ result, mapping.upstreamName = mapping.identity.name := by
  induction identities generalizing mappings with
  | nil =>
    cases assigned
    exact fun mapping member => (own mapping member).1
  | cons identity rest ih =>
    obtain ⟨name, known, later⟩ := assignNames_cons assigned
    have shape := functions identity (by simp)
    -- An occupied name would belong to an equal function.
    have same : name = identity.name := by
      rcases name_taken (by simp [shape.1]) known with same | taken
      · exact same.symm
      · obtain ⟨mapping, member, clash⟩ := List.mem_map.1 taken
        obtain ⟨kept, function⟩ := own mapping member
        have equal := ToolIdentity.function_ext function shape (kept.symm.trans clash)
        have apart := (List.nodup_append.1 distinct).2.2 mapping.identity
          (List.mem_map_of_mem member) identity (by simp)
        exact absurd equal apart
    refine ih ?_ (fun other member => functions other (by simp [member])) ?_ later
    · intro mapping member
      rcases List.mem_append.1 member with old | new
      · exact own mapping old
      · rw [List.mem_singleton] at new
        rw [new]
        exact ⟨same, shape⟩
    · simpa using distinct

namespace ToolAdapterRegistry

variable {sha256 : Sha256} {declared : List ToolIdentity} {registry : ToolAdapterRegistry}
  {tool : ToolIdentity} {name : String}

theorem mappings_of_fromIdentities (built : fromIdentities sha256 declared = .ok registry) :
    assignNames sha256 (canonicalOrder declared) [] = .ok registry.mappings := by
  unfold fromIdentities at built
  cases assigned : assignNames sha256 (canonicalOrder declared) [] with
  | error failure => simp [assigned, Except.map] at built
  | ok mappings =>
    simp only [assigned, Except.map, Except.ok.injEq] at built
    rw [← built]

theorem upstreamName_eq_some (built : fromIdentities sha256 declared = .ok registry) :
    registry.upstreamName tool = some name ↔ ⟨tool, name⟩ ∈ registry.mappings := by
  have identities := assignNames_identities (mappings_of_fromIdentities built)
  have distinct : (registry.mappings.map (·.identity)).Nodup := by
    simpa [identities] using canonicalOrder_nodup declared
  simp only [upstreamName, Option.map_eq_some_iff, find?_eq_some_iff_of_nodup distinct]
  constructor
  · rintro ⟨⟨_, _⟩, ⟨member, rfl⟩, rfl⟩
    exact member
  · intro member
    exact ⟨⟨tool, name⟩, ⟨member, rfl⟩, rfl⟩

theorem identity_eq_some (built : fromIdentities sha256 declared = .ok registry) :
    registry.identity name = some tool ↔ ⟨tool, name⟩ ∈ registry.mappings := by
  have distinct := assignNames_nodup (by simp) (mappings_of_fromIdentities built)
  simp only [identity, Option.map_eq_some_iff, find?_eq_some_iff_of_nodup distinct]
  constructor
  · rintro ⟨⟨_, _⟩, ⟨member, rfl⟩, rfl⟩
    exact member
  · intro member
    exact ⟨⟨tool, name⟩, ⟨member, rfl⟩, rfl⟩

theorem identity_iff_upstreamName (built : fromIdentities sha256 declared = .ok registry) :
    registry.identity name = some tool ↔ registry.upstreamName tool = some name := by
  rw [identity_eq_some built, upstreamName_eq_some built]

theorem declared_iff_named (built : fromIdentities sha256 declared = .ok registry) :
    tool ∈ declared ↔ ∃ name, registry.upstreamName tool = some name := by
  have identities := assignNames_identities (mappings_of_fromIdentities built)
  rw [← mem_canonicalOrder declared, show canonicalOrder declared =
    registry.mappings.map (·.identity) by simpa using identities.symm]
  simp only [upstreamName_eq_some built, List.mem_map]
  constructor
  · rintro ⟨⟨_, name⟩, member, rfl⟩
    exact ⟨name, member⟩
  · rintro ⟨name, member⟩
    exact ⟨⟨tool, name⟩, member, rfl⟩

-- Where a declared tool stands in the canonical order, and how its name was assigned there.
theorem named_split (built : fromIdentities sha256 declared = .ok registry)
    (named : registry.upstreamName tool = some name) : ∃ before after mappings,
      canonicalOrder declared = before ++ tool :: after ∧ tool ∉ before ∧
      assignNames sha256 before [] = .ok mappings ∧
      assignedUpstreamName sha256 tool (mappings.map (·.upstreamName)) = .ok name := by
  have member := (mem_canonicalOrder declared).2 ((declared_iff_named built).2 ⟨name, named⟩)
  obtain ⟨before, after, split, absent⟩ := List.eq_append_cons_of_mem member
  have assigned := mappings_of_fromIdentities built
  rw [split, assignNames_append, Except.bind_eq_ok] at assigned
  obtain ⟨mappings, first, rest⟩ := assigned
  obtain ⟨own, known, later⟩ := assignNames_cons rest
  obtain ⟨added, result⟩ := assignNames_prefix later
  have mapped : registry.upstreamName tool = some own := by
    rw [upstreamName_eq_some built, result]
    simp
  rw [named] at mapped
  cases mapped
  exact ⟨before, after, mappings, split, absent, first, known⟩

theorem assigned_of_upstreamName (built : fromIdentities sha256 declared = .ok registry)
    (named : registry.upstreamName tool = some name) :
    assignedUpstreamName sha256 tool (namesBefore sha256 declared tool) = .ok name := by
  obtain ⟨before, after, mappings, split, absent, first, known⟩ := named_split built named
  have taken : (canonicalOrder declared).takeWhile (· ≠ tool) = before := by
    rw [split, List.takeWhile_append_of_pos]
    · simp
    · intro other earlier
      have differs : other ≠ tool := fun same => absent (same ▸ earlier)
      simpa using differs
  rw [namesBefore, taken, first]
  exact known

theorem upstreamName_ne_earlier (built : fromIdentities sha256 declared = .ok registry)
    {earlier : ToolIdentity} (declares : earlier ∈ declared)
    (kind : earlier.kind ≠ .namespaceMember)
    (below : canonicalSortKey earlier < canonicalSortKey tool)
    (named : registry.upstreamName tool = some name) : name ≠ earlier.name := by
  obtain ⟨before, after, mappings, split, -, first, known⟩ := named_split built named
  have taken := assignNames_taken first kind (canonicalOrder_split below split declares)
  intro same
  rw [same] at known
  exact assignedUpstreamName_fresh known taken

theorem upstreamName_plain (built : fromIdentities sha256 declared = .ok registry)
    (kind : tool.kind = .function) (plain : tool.group = none)
    (named : registry.upstreamName tool = some name) : name = tool.name := by
  obtain ⟨before, after, mappings, split, absent, first, known⟩ := named_split built named
  have distinct := canonicalOrder_nodup declared
  have sorted := canonicalOrder_sorted declared
  rw [split] at distinct sorted
  have functions : ∀ identity ∈ before, identity.kind = .function ∧ identity.group = none := by
    intro identity member
    have below : canonicalSortKey identity ≤ canonicalSortKey tool :=
      (List.pairwise_append.1 sorted).2.2 identity member tool (by simp)
    have rank : kindRank identity.kind ≤ kindRank tool.kind := Prod.Lex.monotone_fst _ _ below
    have function : identity.kind = .function := by
      cases found : identity.kind <;> simp_all [kindRank]
    -- no namespace comes before the missing one
    rw [canonicalSortKey, canonicalSortKey, function, kind, plain, Prod.Lex.toLex_le_toLex] at below
    have inner := (below.resolve_left (lt_irrefl _)).2
    let group : WithBot String := identity.group
    have least : group ≤ ⊥ := Prod.Lex.monotone_fst _ _ inner
    exact ⟨function, le_bot_iff.1 least⟩
  have own := @assignNames_functions sha256 before [] mappings (by simp) functions
    (by simpa using (List.nodup_append.1 distinct).1) first
  rcases name_taken (by simp [kind]) known with same | taken
  · exact same.symm
  · obtain ⟨mapping, member, clash⟩ := List.mem_map.1 taken
    have earlier : mapping.identity ∈ before := by
      have identities := assignNames_identities first
      rw [List.map_nil, List.nil_append] at identities
      rw [← identities]
      exact List.mem_map_of_mem member
    have same : mapping.identity = tool :=
      ToolIdentity.function_ext (functions _ earlier) ⟨kind, plain⟩
        ((own mapping member).symm.trans clash)
    exact absurd (same ▸ earlier) absent

theorem upstreamName_function (formed : ∀ identity ∈ declared, identity.Formed)
    (built : fromIdentities sha256 declared = .ok registry) (kind : tool.kind = .function)
    (named : registry.upstreamName tool = some name) : name = tool.name := by
  have shape := formed tool ((declared_iff_named built).2 ⟨name, named⟩)
  rw [ToolIdentity.Formed, kind] at shape
  exact upstreamName_plain built kind shape named

theorem keepsOwnName_iff (formed : ∀ identity ∈ declared, identity.Formed)
    (built : fromIdentities sha256 declared = .ok registry) (declares : tool ∈ declared) :
    registry.upstreamName tool = some tool.name ↔ KeepsOwnName sha256 declared tool := by
  obtain ⟨name, named⟩ := (declared_iff_named built).1 declares
  have assigned := assigned_of_upstreamName built named
  rw [named, Option.some_inj, KeepsOwnName]
  split
  · next kind => exact iff_of_true (upstreamName_function formed built kind named) trivial
  · next kind =>
    constructor
    · intro same taken
      exact assignedUpstreamName_fresh assigned (same ▸ taken)
    · intro free
      rcases name_taken (by simp [kind]) assigned with same | taken
      · exact same.symm
      · exact absurd taken free
  · next kind => rw [assigned_namespaceMember kind assigned]

end ToolAdapterRegistry

end ChatGateway
