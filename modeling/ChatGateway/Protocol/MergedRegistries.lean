import ChatGateway.Protocol.ToolNames

set_option autoImplicit false

/-!
# Merged registries

A continued conversation keeps the names of its earlier tools and adds those of the later ones.
-/

namespace ChatGateway

namespace ToolAdapterRegistry

def addMapping (known : List ToolMapping) (mapping : ToolMapping) : List ToolMapping :=
  if known.all fun other => other.upstreamName ≠ mapping.upstreamName then known ++ [mapping]
  else known

def mergedWith (registry additional : ToolAdapterRegistry) : ToolAdapterRegistry where
  mappings := additional.mappings.foldl addMapping registry.mappings

def unknownTo (known additional : List ToolMapping) : List ToolMapping :=
  additional.filter fun mapping => mapping.upstreamName ∉ known.map (·.upstreamName)

theorem foldl_addMapping {known additional : List ToolMapping}
    (distinct : (additional.map (·.upstreamName)).Nodup) :
    additional.foldl addMapping known = known ++ unknownTo known additional := by
  induction additional generalizing known with
  | nil => simp [unknownTo]
  | cons mapping rest ih =>
    rw [List.map_cons, List.nodup_cons] at distinct
    have step : (known.all fun other => other.upstreamName ≠ mapping.upstreamName) =
        decide (mapping.upstreamName ∉ known.map (·.upstreamName)) := by
      rw [Bool.eq_iff_iff]
      simp only [List.all_eq_true, decide_eq_true_eq, List.mem_map, not_exists, not_and]
    rw [List.foldl_cons, ih distinct.2]
    unfold addMapping unknownTo
    rw [step, List.filter_cons]
    by_cases fresh : mapping.upstreamName ∉ known.map (·.upstreamName)
    · rw [decide_eq_true fresh, if_pos rfl, if_pos rfl, List.append_assoc,
        List.singleton_append]
      congr 2
      -- the rest does not hold the name that was just added
      refine List.filter_congr fun other member => ?_
      have differs : other.upstreamName ≠ mapping.upstreamName :=
        fun same => distinct.1 (List.mem_map.mpr ⟨other, member, same⟩)
      simp [differs]
    · rw [decide_eq_false fresh]
      simp

variable {sha256 : Sha256} {declared later last : List ToolIdentity}
  {r s t : ToolAdapterRegistry} {tool : ToolIdentity} {name : String}

theorem names_nodup (built : fromIdentities sha256 declared = .ok r) :
    (r.mappings.map (·.upstreamName)).Nodup :=
  assignNames_nodup (by simp) (mappings_of_fromIdentities built)

theorem mappings_mergedWith (distinct : (s.mappings.map (·.upstreamName)).Nodup) :
    (r.mergedWith s).mappings = r.mappings ++ unknownTo r.mappings s.mappings :=
  foldl_addMapping distinct

theorem identity_eq_none : r.identity name = none ↔ name ∉ r.mappings.map (·.upstreamName) := by
  simp [identity, List.find?_eq_none]

theorem identity_mergedWith (distinct : (s.mappings.map (·.upstreamName)).Nodup) :
    (r.mergedWith s).identity name = (r.identity name).or (s.identity name) := by
  unfold identity
  rw [mappings_mergedWith distinct, List.find?_append, Option.map_or]
  cases known : r.mappings.find? fun mapping => mapping.upstreamName = name with
  | some mapping => rfl
  | none =>
    have fresh : name ∉ r.mappings.map (·.upstreamName) :=
      identity_eq_none.mp (by rw [identity, known]; rfl)
    rw [Option.map_none, Option.none_or, Option.none_or, unknownTo, List.find?_filter]
    congr 2
    funext mapping
    by_cases same : mapping.upstreamName = name
    · subst same
      simp [fresh]
    · simp [same]

theorem upstreamName_mergedWith (built : fromIdentities sha256 later = .ok s) :
    (r.mergedWith s).upstreamName tool = (r.upstreamName tool).or
      ((s.upstreamName tool).filter fun name => (r.identity name).isNone) := by
  have form : (r.mergedWith s).upstreamName tool = (r.upstreamName tool).or
      (((unknownTo r.mappings s.mappings).find? fun mapping => mapping.identity = tool).map
        (·.upstreamName)) := by
    unfold upstreamName
    rw [mappings_mergedWith (names_nodup built), List.find?_append, Option.map_or]
  rw [form]
  congr 1
  apply Option.ext
  intro found
  rw [Option.filter_eq_some_iff, Option.isNone_iff_eq_none, identity_eq_none,
    upstreamName_eq_some built, Option.map_eq_some_iff]
  constructor
  · rintro ⟨⟨other, same⟩, isFirst, rfl⟩
    obtain ⟨member, fresh⟩ := List.mem_filter.mp (List.mem_of_find?_eq_some isFirst)
    have own : other = tool := by simpa using List.find?_some isFirst
    subst own
    exact ⟨member, by simpa using fresh⟩
  · rintro ⟨member, fresh⟩
    have listed : (⟨tool, found⟩ : ToolMapping) ∈ unknownTo r.mappings s.mappings :=
      List.mem_filter.mpr ⟨member, by simpa using fresh⟩
    have distinct : ((unknownTo r.mappings s.mappings).map (·.identity)).Nodup := by
      have identities := assignNames_identities (mappings_of_fromIdentities built)
      have whole : (s.mappings.map (·.identity)).Nodup := by
        simpa [identities] using canonicalOrder_nodup later
      exact whole.sublist (List.Sublist.map _ List.filter_sublist)
    exact ⟨_, (find?_eq_some_iff_of_nodup distinct).mpr ⟨listed, rfl⟩, rfl⟩

theorem names_mergedWith_nodup (first : (r.mappings.map (·.upstreamName)).Nodup)
    (second : (s.mappings.map (·.upstreamName)).Nodup) :
    ((r.mergedWith s).mappings.map (·.upstreamName)).Nodup := by
  rw [mappings_mergedWith second, List.map_append, List.nodup_append]
  refine ⟨first, second.sublist (List.Sublist.map _ List.filter_sublist), ?_⟩
  rintro name known other added rfl
  obtain ⟨mapping, member, rfl⟩ := List.mem_map.mp added
  exact absurd known (by simpa using (List.mem_filter.mp member).2)

theorem mem_names_mergedWith (distinct : (s.mappings.map (·.upstreamName)).Nodup) :
    name ∈ (r.mergedWith s).mappings.map (·.upstreamName) ↔
      name ∈ r.mappings.map (·.upstreamName) ∨ name ∈ s.mappings.map (·.upstreamName) := by
  rw [← not_iff_not, not_or, ← identity_eq_none, ← identity_eq_none, ← identity_eq_none,
    identity_mergedWith distinct, Option.or_eq_none_iff]

theorem mergedWith_of_known (distinct : (s.mappings.map (·.upstreamName)).Nodup)
    (known : ∀ mapping ∈ s.mappings, mapping.upstreamName ∈ r.mappings.map (·.upstreamName)) :
    r.mergedWith s = r := by
  have none : unknownTo r.mappings s.mappings = [] := by
    rw [unknownTo, List.filter_eq_nil_iff]
    intro mapping member
    simpa using known mapping member
  have mappings := @mappings_mergedWith r s distinct
  rw [none, List.append_nil] at mappings
  cases r
  exact congrArg ToolAdapterRegistry.mk mappings

theorem mergedWith_assoc (second : (s.mappings.map (·.upstreamName)).Nodup)
    (third : (t.mappings.map (·.upstreamName)).Nodup) :
    (r.mergedWith s).mergedWith t = r.mergedWith (s.mergedWith t) := by
  have both := names_mergedWith_nodup second third
  have mappings : ((r.mergedWith s).mergedWith t).mappings =
      (r.mergedWith (s.mergedWith t)).mappings := by
    have split : unknownTo r.mappings (s.mergedWith t).mappings =
        unknownTo r.mappings s.mappings ++ unknownTo r.mappings (unknownTo s.mappings t.mappings) := by
      rw [mappings_mergedWith third]
      exact List.filter_append _ _
    rw [mappings_mergedWith third, mappings_mergedWith both, split, ← List.append_assoc,
      ← mappings_mergedWith second]
    congr 1
    rw [unknownTo, unknownTo, unknownTo, List.filter_filter]
    refine List.filter_congr fun mapping _ => ?_
    rw [Bool.eq_iff_iff]
    simp only [Bool.and_eq_true, decide_eq_true_eq, mem_names_mergedWith second, not_or]
  exact congrArg ToolAdapterRegistry.mk mappings

/-- A merged registry keeps both sides usable exactly when no new tool of the later one has a name
that an earlier tool goes by. -/
theorem merged_usable_iff (first : fromIdentities sha256 declared = .ok r)
    (second : fromIdentities sha256 later = .ok s) :
    ((∀ name tool, r.identity name = some tool → (r.mergedWith s).identity name = some tool) ∧
      (∀ tool ∈ later, ∃ name, (r.mergedWith s).upstreamName tool = some name ∧
        (r.mergedWith s).identity name = some tool) ∧
      ((r.mergedWith s).mappings.map (·.upstreamName)).Nodup ∧
      r.mergedWith r = r ∧ (r.mergedWith s).mergedWith s = r.mergedWith s ∧
      ∀ last t, fromIdentities sha256 last = .ok t →
        (r.mergedWith s).mergedWith t = r.mergedWith (s.mergedWith t)) ↔
      ∀ tool ∈ later, tool ∉ declared →
        ∀ name, s.upstreamName tool = some name → r.identity name = none := by
  have firstNames := names_nodup first
  have secondNames := names_nodup second
  constructor
  · rintro ⟨-, usable, -⟩ tool member unknown name named
    obtain ⟨found, resolves, -⟩ := usable tool member
    have unnamed : r.upstreamName tool = none := by
      rw [Option.eq_none_iff_forall_ne_some]
      exact fun own isNamed => unknown ((declared_iff_named first).2 ⟨own, isNamed⟩)
    rw [upstreamName_mergedWith second, unnamed, Option.none_or, named, Option.filter_eq_some_iff]
      at resolves
    obtain ⟨same, free⟩ := resolves
    cases same
    exact Option.isNone_iff_eq_none.mp free
  · intro apart
    refine ⟨fun name tool known => ?_, fun tool member => ?_,
      names_mergedWith_nodup firstNames secondNames, ?_, ?_,
      fun last t third => mergedWith_assoc secondNames (names_nodup third)⟩
    · rw [identity_mergedWith secondNames, known, Option.some_or]
    · obtain ⟨name, named⟩ := (declared_iff_named second).1 member
      by_cases known : tool ∈ declared
      · obtain ⟨own, isNamed⟩ := (declared_iff_named first).1 known
        refine ⟨own, ?_, ?_⟩
        · rw [upstreamName_mergedWith second, isNamed, Option.some_or]
        · rw [identity_mergedWith secondNames, (identity_iff_upstreamName first).2 isNamed,
            Option.some_or]
      · have free := apart tool member known name named
        have unnamed : r.upstreamName tool = none := by
          rw [Option.eq_none_iff_forall_ne_some]
          exact fun own isNamed => known ((declared_iff_named first).2 ⟨own, isNamed⟩)
        refine ⟨name, ?_, ?_⟩
        · rw [upstreamName_mergedWith second, unnamed, Option.none_or, named]
          simp [free]
        · rw [identity_mergedWith secondNames, free, Option.none_or,
            (identity_iff_upstreamName second).2 named]
    · exact mergedWith_of_known firstNames fun mapping member => List.mem_map_of_mem member
    · refine mergedWith_of_known secondNames fun mapping member => ?_
      rw [mem_names_mergedWith secondNames]
      exact Or.inr (List.mem_map_of_mem member)

def zeroHash : Sha256 where
  hex _ := List.replicate 64 '0'
  hex_length _ := List.length_replicate

def ownNamed (tool : ToolIdentity) : ToolAdapterRegistry where
  mappings := [⟨tool, tool.name⟩]

theorem merged_usable_iff_two :
    ((ownNamed (.function "find")).mergedWith (ownNamed (.function "list"))).upstreamName
        (.function "list") = some "list" ∧
      ((ownNamed (.function "find")).mergedWith (ownNamed (.function "list"))).identity "list" =
        some (.function "list") := by
  have first : fromIdentities zeroHash [.function "find"] = .ok (ownNamed (.function "find")) := rfl
  have second : fromIdentities zeroHash [.function "list"] = .ok (ownNamed (.function "list")) := rfl
  obtain ⟨-, usable, -⟩ := (merged_usable_iff first second).mpr (by
    intro tool member _ name named
    rw [List.mem_singleton] at member
    subst member
    have isName : some "list" = some name := named
    cases isName
    decide)
  obtain ⟨name, named, resolves⟩ := usable _ List.mem_cons_self
  have isName : some "list" = some name := named
  cases isName
  exact ⟨named, resolves⟩

/-- A function is lost when a custom tool of its name was there before it. -/
theorem namesake_lost_in_merge :
    ∃ earlier added, fromIdentities zeroHash [.custom none "find"] = .ok earlier ∧
      fromIdentities zeroHash [.function "find"] = .ok added ∧
      added.upstreamName (.function "find") = some "find" ∧
      (earlier.mergedWith added).upstreamName (.function "find") = none :=
  ⟨ownNamed (.custom none "find"), ownNamed (.function "find"), rfl, rfl, by decide, by decide⟩

end ToolAdapterRegistry

end ChatGateway
