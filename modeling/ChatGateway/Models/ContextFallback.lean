import ChatGateway.Models.Listing
import Mathlib.Data.Finset.Order

set_option autoImplicit false

/-!
# The fallback to a model with a larger context

Which context configuration a model has on an upstream, and which other model of its group a request
that is too long for it is sent to.
-/

namespace ChatGateway

namespace Models

structure GlobalContextProfile where
  modelContexts : List ModelContextConfig := []
  defaultModelContext : Option DefaultModelContextConfig := none

def DefaultModelContextConfig.forModel (config : DefaultModelContextConfig) (model : Text) :
    ModelContextConfig where
  slug := Text.trim model
  contextLimit := config.contextLimit
  outputReserve := config.outputReserve
  maxOutputTokens := config.maxOutputTokens
  contextGroup := config.contextGroup

def slugMatches (candidate : Text) (caseInsensitive : Bool) (config : ModelContextConfig) : Bool :=
  if caseInsensitive then modelsEquivalent config.slug candidate
  else Text.trim config.slug = candidate

def firstMove (move : ModelContextConfig → Option (Option Text)) :
    List ModelContextConfig → Option (Option Text)
  | [] => some none
  | candidate :: rest => if move candidate = some none then firstMove move rest else move candidate

def limitLe (first second : ModelContextConfig) : Bool :=
  first.contextLimit ≤ second.contextLimit

def sortByLimit (candidates : List ModelContextConfig) : List ModelContextConfig :=
  candidates.mergeSort limitLe

def isCandidate (current config : ModelContextConfig) : Bool :=
  Text.trim config.contextGroup = Text.trim current.contextGroup &&
    current.contextLimit < config.contextLimit

namespace UpstreamConfig

variable (upstream : UpstreamConfig) (profile : Option GlobalContextProfile)
  (caseInsensitive : Bool)

def contextConfigNamed (candidate : Text) : Option ModelContextConfig :=
  (upstream.modelContexts.find? (slugMatches candidate caseInsensitive)).or
    (profile.bind fun profile =>
      profile.modelContexts.find? (slugMatches candidate caseInsensitive))

def contextConfigForModelWithProfileAndCase (model : Text) : Option (Option ModelContextConfig) :=
  (upstream.resolvedModelNameWith model caseInsensitive).map fun resolved =>
    resolved.bind fun candidate =>
      ([candidate, Text.trim model].findSome?
        (upstream.contextConfigNamed profile caseInsensitive)).or
        ((upstream.defaultModelContext.map (·.forModel model)).or
          (profile.bind fun profile => profile.defaultModelContext.map (·.forModel model)))

def candidateContexts : Table Text ModelContextConfig :=
  (profile.elim [] (·.modelContexts) ++ upstream.modelContexts).foldl
    (fun contexts config => contexts.insert (Text.trim config.slug) config) ∅

def contextValues : List ModelContextConfig :=
  (upstream.candidateContexts profile).entries.map (·.2)

def moveTo (currentResolved : Text) (candidate : ModelContextConfig) : Option (Option Text) :=
  (upstream.resolvedModelNameWith candidate.slug caseInsensitive).map fun resolved =>
    resolved.filter fun resolved => Text.trim resolved ≠ Text.trim currentResolved

def contextFallbackModelForWithProfileAndCase (model : Text) (minimumContextLimit : Nat)
    (listed : List ModelContextConfig) : Option (Option Text) :=
  match upstream.contextConfigForModelWithProfileAndCase profile caseInsensitive model with
  | none => none
  | some none => some none
  | some (some current) =>
    if Text.trim current.contextGroup = [] then some none
    else
      match upstream.resolvedModelNameWith model caseInsensitive with
      | none => none
      | some resolved =>
        let move := upstream.moveTo caseInsensitive (resolved.getD model)
        let candidates := sortByLimit (listed.filter (isCandidate current))
        let reaching := firstMove move
          (candidates.filter fun config => minimumContextLimit ≤ config.contextLimit)
        if reaching = some none then firstMove move candidates else reaching

end UpstreamConfig

section FirstMove

variable {move : ModelContextConfig → Option (Option Text)}

theorem firstMove_passed {passed rest : List ModelContextConfig}
    (nowhere : ∀ config ∈ passed, move config = some none) :
    firstMove move (passed ++ rest) = firstMove move rest := by
  induction passed with
  | nil => rfl
  | cons config passed ih =>
    rw [List.cons_append, firstMove, if_pos (nowhere config List.mem_cons_self)]
    exact ih fun other known => nowhere other (List.mem_cons_of_mem _ known)

theorem firstMove_eq_none_iff {candidates : List ModelContextConfig} :
    firstMove move candidates = some none ↔ ∀ config ∈ candidates, move config = some none := by
  induction candidates with
  | nil => simp [firstMove]
  | cons config rest ih =>
    rw [firstMove, List.forall_mem_cons]
    split
    next nowhere => simp [nowhere, ih]
    next somewhere => simp [somewhere]

theorem firstMove_least {candidates : List ModelContextConfig}
    (sorted : candidates.Pairwise fun first second => first.contextLimit ≤ second.contextLimit)
    (moves : firstMove move candidates ≠ some none) :
    ∃ config ∈ candidates, firstMove move candidates = move config ∧ move config ≠ some none ∧
      ∀ other ∈ candidates, move other ≠ some none → config.contextLimit ≤ other.contextLimit := by
  induction candidates with
  | nil => exact absurd rfl moves
  | cons config rest ih =>
    obtain ⟨least, sorted⟩ := List.pairwise_cons.1 sorted
    by_cases nowhere : move config = some none
    · rw [firstMove, if_pos nowhere] at moves ⊢
      obtain ⟨first, known, same, somewhere, before⟩ := ih sorted moves
      refine ⟨first, List.mem_cons_of_mem _ known, same, somewhere, ?_⟩
      intro other listed moving
      rcases List.mem_cons.1 listed with rfl | listed
      · exact absurd nowhere moving
      · exact before other listed moving
    · rw [firstMove, if_neg nowhere]
      refine ⟨config, List.mem_cons_self, rfl, nowhere, ?_⟩
      intro other listed _
      rcases List.mem_cons.1 listed with rfl | listed
      · exact Nat.le_refl _
      · exact least other listed

theorem limitLe_trans (first second third : ModelContextConfig) (low : limitLe first second = true)
    (high : limitLe second third = true) : limitLe first third = true := by
  simp only [limitLe, decide_eq_true_eq] at low high ⊢
  exact low.trans high

theorem limitLe_total (first second : ModelContextConfig) :
    (limitLe first second || limitLe second first) = true := by
  simpa [limitLe] using Nat.le_total first.contextLimit second.contextLimit

theorem sorted_sortByLimit (candidates : List ModelContextConfig) :
    (sortByLimit candidates).Pairwise fun first second =>
      first.contextLimit ≤ second.contextLimit :=
  (List.pairwise_mergeSort limitLe_trans limitLe_total candidates).imp fun le => by
    simpa [limitLe] using le

@[simp] theorem mem_sortByLimit {candidates : List ModelContextConfig}
    {config : ModelContextConfig} : config ∈ sortByLimit candidates ↔ config ∈ candidates :=
  List.mem_mergeSort

theorem sortByLimit_cons (config : ModelContextConfig) (rest : List ModelContextConfig) :
    ∃ before after, sortByLimit (config :: rest) = before ++ config :: after ∧
      ∀ other ∈ before, other.contextLimit < config.contextLimit := by
  obtain ⟨before, after, sorted, -, lower⟩ :=
    List.mergeSort_cons limitLe_trans limitLe_total config rest
  refine ⟨before, after, sorted, fun other known => ?_⟩
  simpa [limitLe] using lower other known

end FirstMove

section Fallback

variable (upstream : UpstreamConfig) (profile : Option GlobalContextProfile)
  (caseInsensitive : Bool) (model : Text) (minimumContextLimit : Nat)

structure FallbackStart (current : ModelContextConfig) (resolved : Text) : Prop where
  configured : upstream.contextConfigForModelWithProfileAndCase profile caseInsensitive model =
    some (some current)
  resolved : upstream.resolvedModelNameWith model caseInsensitive = some (some resolved)
  grouped : Text.trim current.contextGroup ≠ []

structure Live (current : ModelContextConfig) (resolved : Text) (config : ModelContextConfig) :
    Prop where
  listed : config ∈ upstream.contextValues profile
  candidate : isCandidate current config = true
  moves : upstream.moveTo caseInsensitive resolved config ≠ some none

/-- The first is tried no later than the second: what reaches the minimum comes first, and of these
and of the others what has the smaller limit. -/
def TriedBefore (first second : ModelContextConfig) : Prop :=
  if minimumContextLimit ≤ first.contextLimit then
    minimumContextLimit ≤ second.contextLimit → first.contextLimit ≤ second.contextLimit
  else second.contextLimit < minimumContextLimit ∧ first.contextLimit ≤ second.contextLimit

structure First (current : ModelContextConfig) (resolved : Text) (config : ModelContextConfig) :
    Prop where
  live : Live upstream profile caseInsensitive current resolved config
  before : ∀ other, Live upstream profile caseInsensitive current resolved other →
    TriedBefore minimumContextLimit config other

variable {upstream profile caseInsensitive model minimumContextLimit}
  {current : ModelContextConfig} {resolved : Text} {listed : List ModelContextConfig}

theorem FallbackStart.fallback_eq
    (start : FallbackStart upstream profile caseInsensitive model current resolved) :
    upstream.contextFallbackModelForWithProfileAndCase profile caseInsensitive model
        minimumContextLimit listed =
      if firstMove (upstream.moveTo caseInsensitive resolved)
          ((sortByLimit (listed.filter (isCandidate current))).filter fun config =>
            minimumContextLimit ≤ config.contextLimit) = some none then
        firstMove (upstream.moveTo caseInsensitive resolved)
          (sortByLimit (listed.filter (isCandidate current)))
      else
        firstMove (upstream.moveTo caseInsensitive resolved)
          ((sortByLimit (listed.filter (isCandidate current))).filter fun config =>
            minimumContextLimit ≤ config.contextLimit) := by
  simp only [UpstreamConfig.contextFallbackModelForWithProfileAndCase, start.configured,
    start.grouped, start.resolved, if_false, Option.getD_some]

theorem exists_start {next : Text}
    (answered : upstream.contextFallbackModelForWithProfileAndCase profile caseInsensitive model
      minimumContextLimit listed = some (some next)) :
    ∃ current resolved,
      FallbackStart upstream profile caseInsensitive model current resolved := by
  unfold UpstreamConfig.contextFallbackModelForWithProfileAndCase at answered
  split at answered
  next => cases answered
  next => cases answered
  next current configured =>
    split at answered
    next => cases answered
    next grouped =>
      obtain ⟨named, resolved, found⟩ := Option.map_eq_some_iff.1 configured
      obtain ⟨candidate, same, -⟩ := Option.bind_eq_some_iff.1 found
      exact ⟨current, candidate, configured, same ▸ resolved, grouped⟩

section Order

variable (start : FallbackStart upstream profile caseInsensitive model current resolved)
include start

theorem FallbackStart.fallback_cases (minimumContextLimit : Nat)
    (values : listed.Perm (upstream.contextValues profile)) :
    (upstream.contextFallbackModelForWithProfileAndCase profile caseInsensitive model
        minimumContextLimit listed = some none ∧
      ∀ config, ¬ Live upstream profile caseInsensitive current resolved config) ∨
    ∃ config, First upstream profile caseInsensitive minimumContextLimit current resolved config ∧
      upstream.contextFallbackModelForWithProfileAndCase profile caseInsensitive model
        minimumContextLimit listed = upstream.moveTo caseInsensitive resolved config := by
  have sorted := sorted_sortByLimit (listed.filter (isCandidate current))
  have listed_iff (config : ModelContextConfig) :
      config ∈ sortByLimit (listed.filter (isCandidate current)) ↔
        config ∈ upstream.contextValues profile ∧ isCandidate current config = true := by
    rw [mem_sortByLimit, List.mem_filter, values.mem_iff]
  rw [start.fallback_eq]
  generalize sortByLimit (listed.filter (isCandidate current)) = candidates at sorted listed_iff
  have known {config : ModelContextConfig}
      (live : Live upstream profile caseInsensitive current resolved config) :
      config ∈ candidates := (listed_iff config).2 ⟨live.listed, live.candidate⟩
  split
  next passed =>
    have short {config : ModelContextConfig}
        (live : Live upstream profile caseInsensitive current resolved config) :
        config.contextLimit < minimumContextLimit := by
      by_contra reaches
      refine live.moves (firstMove_eq_none_iff.1 passed config ?_)
      exact List.mem_filter.2 ⟨known live, by simpa using Nat.le_of_not_lt reaches⟩
    by_cases nowhere : firstMove (upstream.moveTo caseInsensitive resolved) candidates = some none
    · refine .inl ⟨nowhere, fun config live => ?_⟩
      exact live.moves (firstMove_eq_none_iff.1 nowhere config (known live))
    · obtain ⟨config, listed, same, moves, least⟩ := firstMove_least sorted nowhere
      obtain ⟨value, candidate⟩ := (listed_iff config).1 listed
      have live : Live upstream profile caseInsensitive current resolved config :=
        ⟨value, candidate, moves⟩
      refine .inr ⟨config, ⟨live, fun other moving => ?_⟩, same⟩
      rw [TriedBefore, if_neg (Nat.not_le.2 (short live))]
      exact ⟨short moving, least other (known moving) moving.moves⟩
  next moving =>
    obtain ⟨config, listed, same, moves, least⟩ :=
      firstMove_least (sorted.sublist List.filter_sublist) moving
    obtain ⟨listed, reaches⟩ := List.mem_filter.1 listed
    obtain ⟨value, candidate⟩ := (listed_iff config).1 listed
    refine .inr ⟨config, ⟨⟨value, candidate, moves⟩, fun other live => ?_⟩, same⟩
    rw [TriedBefore, if_pos (by simpa using reaches)]
    intro enough
    exact least other (List.mem_filter.2 ⟨known live, by simpa using enough⟩) live.moves

theorem FallbackStart.fallback_first {config : ModelContextConfig}
    (first : First upstream profile caseInsensitive minimumContextLimit current resolved config) :
    ∃ listed : List ModelContextConfig, listed.Perm (upstream.contextValues profile) ∧
      upstream.contextFallbackModelForWithProfileAndCase profile caseInsensitive model
        minimumContextLimit listed = upstream.moveTo caseInsensitive resolved config := by
  have values := (List.perm_cons_erase first.live.listed).symm
  refine ⟨_, values, ?_⟩
  rw [start.fallback_eq, List.filter_cons_of_pos first.live.candidate]
  have listed_iff (other : ModelContextConfig) :
      other ∈ sortByLimit (config ::
          ((upstream.contextValues profile).erase config).filter (isCandidate current)) →
        other ∈ upstream.contextValues profile ∧ isCandidate current other = true := by
    rw [mem_sortByLimit, ← List.filter_cons_of_pos first.live.candidate, List.mem_filter,
      values.mem_iff]
    exact id
  obtain ⟨before, after, sorted, lower⟩ := sortByLimit_cons config
    (((upstream.contextValues profile).erase config).filter (isCandidate current))
  rw [sorted] at listed_iff ⊢
  have live {other : ModelContextConfig} (known : other ∈ before ++ config :: after)
      (moves : upstream.moveTo caseInsensitive resolved other ≠ some none) :
      TriedBefore minimumContextLimit config other := by
    obtain ⟨value, candidate⟩ := listed_iff other known
    exact first.before other ⟨value, candidate, moves⟩
  by_cases reaches : minimumContextLimit ≤ config.contextLimit
  · have passed : ∀ other ∈ before.filter fun other => minimumContextLimit ≤ other.contextLimit,
        upstream.moveTo caseInsensitive resolved other = some none := by
      intro other known
      obtain ⟨known, enough⟩ := List.mem_filter.1 known
      by_contra moves
      have order := live (List.mem_append_left _ known) moves
      rw [TriedBefore, if_pos reaches] at order
      exact Nat.not_lt.2 (order (by simpa using enough)) (lower other known)
    have reaching : firstMove (upstream.moveTo caseInsensitive resolved)
        ((before ++ config :: after).filter fun other =>
          minimumContextLimit ≤ other.contextLimit) =
        upstream.moveTo caseInsensitive resolved config := by
      rw [List.filter_append, List.filter_cons_of_pos (by simpa using reaches),
        firstMove_passed passed, firstMove, if_neg first.live.moves]
    rw [reaching, if_neg first.live.moves]
  · have passed : ∀ other ∈ before, upstream.moveTo caseInsensitive resolved other = some none := by
      intro other known
      by_contra moves
      have order := live (List.mem_append_left _ known) moves
      rw [TriedBefore, if_neg reaches] at order
      exact Nat.not_lt.2 order.2 (lower other known)
    have none : firstMove (upstream.moveTo caseInsensitive resolved)
        ((before ++ config :: after).filter fun other =>
          minimumContextLimit ≤ other.contextLimit) = some none := by
      rw [firstMove_eq_none_iff]
      intro other known
      obtain ⟨known, enough⟩ := List.mem_filter.1 known
      by_contra moves
      have order := live known moves
      rw [TriedBefore, if_neg reaches] at order
      exact Nat.not_le.2 order.1 (by simpa using enough)
    rw [if_pos none, firstMove_passed passed, firstMove, if_neg first.live.moves]

end Order

end Fallback

section Upward

variable (upstream : UpstreamConfig) (profile : Option GlobalContextProfile)
  (caseInsensitive : Bool) (model : Text) (minimumContextLimit : Nat)

/-- The model is stored and not the requested one, and its own configuration is of the same group,
with a larger limit that reaches the minimum if a candidate does. -/
def MovesUp (next : Text) : Prop :=
  next ∈ upstream.routeModels ∧
    ∃ current resolved config,
      FallbackStart upstream profile caseInsensitive model current resolved ∧ next ≠ resolved ∧
      upstream.contextConfigForModelWithProfileAndCase profile caseInsensitive next =
        some (some config) ∧
      Text.trim config.contextGroup = Text.trim current.contextGroup ∧
      current.contextLimit < config.contextLimit ∧
      ((∃ candidate ∈ upstream.contextValues profile, isCandidate current candidate = true ∧
          (∃ other, upstream.moveTo caseInsensitive resolved candidate = some (some other)) ∧
          minimumContextLimit ≤ candidate.contextLimit) →
        minimumContextLimit ≤ config.contextLimit)

def FallbackMovesUp : Prop :=
  ∀ listed next, listed.Perm (upstream.contextValues profile) →
    upstream.contextFallbackModelForWithProfileAndCase profile caseInsensitive model
      minimumContextLimit listed = some (some next) →
    MovesUp upstream profile caseInsensitive model minimumContextLimit next ∧
      ∀ other, other.Perm (upstream.contextValues profile) →
        upstream.contextFallbackModelForWithProfileAndCase profile caseInsensitive model
          minimumContextLimit other = some (some next)

/-- All first candidates lead to one model, which is configured under its own name as a candidate
has to be. -/
def FirstConfigured : Prop :=
  ∀ current resolved, FallbackStart upstream profile caseInsensitive model current resolved →
    ∀ config,
      First upstream profile caseInsensitive minimumContextLimit current resolved config →
      (∀ other, First upstream profile caseInsensitive minimumContextLimit current resolved other →
        upstream.moveTo caseInsensitive resolved other =
          upstream.moveTo caseInsensitive resolved config) ∧
      ∀ next, upstream.moveTo caseInsensitive resolved config = some (some next) →
        upstream.routeModels ≠ [] ∧
          ∃ found, upstream.contextConfigForModelWithProfileAndCase profile caseInsensitive next =
              some (some found) ∧
            Text.trim found.contextGroup = Text.trim current.contextGroup ∧
            current.contextLimit < found.contextLimit ∧
            (minimumContextLimit ≤ config.contextLimit →
              minimumContextLimit ≤ found.contextLimit)

variable {upstream profile caseInsensitive model minimumContextLimit}

theorem mappedRouteModel_mem {stored : Text}
    (mapped : upstream.mappedRouteModel model caseInsensitive = some stored) :
    stored ∈ upstream.routeModels := by
  obtain ⟨mapping, -, found⟩ := List.exists_of_findSome?_eq_some mapped
  split_ifs at found
  unfold findEquivalentStored at found
  split_ifs at found
  · exact List.mem_of_find?_eq_some found
  · exact List.mem_of_find?_eq_some found

theorem resolved_mem {name stored : Text} (stocked : upstream.routeModels ≠ [])
    (resolved : upstream.resolvedModelNameWith name caseInsensitive = some (some stored)) :
    stored ∈ upstream.routeModels := by
  unfold UpstreamConfig.resolvedModelNameWith UpstreamConfig.canonicalRouteModel at resolved
  dsimp only at resolved
  split at resolved
  next => cases resolved
  next =>
    split at resolved
    next mapped =>
      cases resolved
      exact mappedRouteModel_mem mapped
    next =>
      split at resolved
      next candidate found =>
        cases resolved
        exact (mem_unoccupiedModels.1 (List.mem_of_find?_eq_some found)).1
      next =>
        obtain ⟨base, -, found⟩ := Option.map_eq_some_iff.1 resolved
        obtain ⟨baseModel, -, found⟩ := Option.bind_eq_some_iff.1 found
        exact (mem_unoccupiedModels.1 (List.mem_of_find?_eq_some found)).1

theorem moveTo_eq_some {current : Text} {config : ModelContextConfig} {next : Text}
    (moves : upstream.moveTo caseInsensitive current config = some (some next)) :
    upstream.resolvedModelNameWith config.slug caseInsensitive = some (some next) ∧
      next ≠ current := by
  obtain ⟨resolved, found, kept⟩ := Option.map_eq_some_iff.1 moves
  obtain ⟨same, apart⟩ := Option.filter_eq_some_iff.1 kept
  refine ⟨same ▸ found, ?_⟩
  rintro rfl
  simp at apart

theorem FallbackStart.unique {current other : ModelContextConfig} {resolved others : Text}
    (start : FallbackStart upstream profile caseInsensitive model current resolved)
    (again : FallbackStart upstream profile caseInsensitive model other others) :
    other = current ∧ others = resolved := by
  have configured := start.configured.symm.trans again.configured
  have named := start.resolved.symm.trans again.resolved
  cases configured
  cases named
  exact ⟨rfl, rfl⟩

theorem fallback_moves_up_iff :
    FallbackMovesUp upstream profile caseInsensitive model minimumContextLimit ↔
      FirstConfigured upstream profile caseInsensitive model minimumContextLimit := by
  constructor
  · intro up current resolved start config first
    obtain ⟨listed, values, answered⟩ := start.fallback_first first
    refine ⟨fun other alike => ?_, fun next moves => ?_⟩
    · obtain ⟨others, values', answered'⟩ := start.fallback_first alike
      -- What one order answers every order answers, so a panic is shared as well.
      rcases move : upstream.moveTo caseInsensitive resolved config with _ | _ | next
      · rcases answer : upstream.moveTo caseInsensitive resolved other with _ | _ | next
        · rfl
        · exact absurd answer alike.live.moves
        · have same := (up others next values' (answered'.trans answer)).2 listed values
          rw [answered, move] at same
          cases same
      · exact absurd move first.live.moves
      · have same := (up listed next values (answered.trans move)).2 others values'
        rw [← answered', same]
    · obtain ⟨⟨stored, current', resolved', found, start', -, configured, group, larger, reaching⟩,
        -⟩ := up listed next values (answered.trans moves)
      obtain ⟨rfl, rfl⟩ := start.unique start'
      refine ⟨List.ne_nil_of_mem stored, found, configured, group, larger, fun reaches => ?_⟩
      exact reaching ⟨config, first.live.listed, first.live.candidate, ⟨next, moves⟩, reaches⟩
  · intro configured listed next values answered
    obtain ⟨current, resolved, start⟩ := exists_start answered
    rcases start.fallback_cases minimumContextLimit values with
      ⟨nowhere, -⟩ | ⟨config, first, same⟩
    · rw [nowhere] at answered
      cases answered
    · have moves := same.symm.trans answered
      obtain ⟨alike, leads⟩ := configured current resolved start config first
      obtain ⟨stocked, found, named, group, larger, reaching⟩ := leads next moves
      obtain ⟨named', apart⟩ := moveTo_eq_some moves
      refine ⟨⟨resolved_mem stocked named', current, resolved, found, start, apart, named, group,
        larger, ?_⟩, ?_⟩
      · rintro ⟨candidate, listed, eligible, ⟨other, moves'⟩, reaches⟩
        have live : Live upstream profile caseInsensitive current resolved candidate :=
          ⟨listed, eligible, by simp [moves']⟩
        have order := first.before candidate live
        rw [TriedBefore] at order
        split at order
        next enough => exact reaching enough
        next => exact absurd order.1 (Nat.not_lt.2 reaches)
      · intro other values'
        rcases start.fallback_cases minimumContextLimit values' with
          ⟨-, none⟩ | ⟨config', first', same'⟩
        · exact absurd first.live (none config)
        · rw [same', alike config' first', moves]

theorem contextConfigNamed_mem {candidate : Text} {config : ModelContextConfig}
    (found : upstream.contextConfigNamed profile caseInsensitive candidate = some config) :
    config ∈ upstream.modelContexts ++ profile.elim [] (·.modelContexts) := by
  rcases Option.or_eq_some_iff.1 found with own | ⟨-, shared⟩
  · exact List.mem_append_left _ (List.mem_of_find?_eq_some own)
  · obtain ⟨held, rfl, listed⟩ := Option.bind_eq_some_iff.1 shared
    exact List.mem_append_right _ (List.mem_of_find?_eq_some listed)

theorem exists_limit_bound (upstream : UpstreamConfig) (profile : Option GlobalContextProfile)
    (caseInsensitive : Bool) :
    ∃ bound, ∀ model config,
      upstream.contextConfigForModelWithProfileAndCase profile caseInsensitive model =
        some (some config) → config.contextLimit ≤ bound := by
  let defaults : List DefaultModelContextConfig :=
    upstream.defaultModelContext.toList ++ (profile.bind (·.defaultModelContext)).toList
  let limits : List Nat :=
    (upstream.modelContexts ++ profile.elim [] (·.modelContexts)).map (·.contextLimit) ++
      defaults.map (·.contextLimit)
  obtain ⟨bound, above⟩ := limits.toFinset.exists_le
  refine ⟨bound, fun model config configured => above _ (List.mem_toFinset.2 ?_)⟩
  obtain ⟨resolved, -, found⟩ := Option.map_eq_some_iff.1 configured
  obtain ⟨candidate, -, found⟩ := Option.bind_eq_some_iff.1 found
  rcases Option.or_eq_some_iff.1 found with named | ⟨-, shared⟩
  · obtain ⟨name, -, found⟩ := List.exists_of_findSome?_eq_some named
    exact List.mem_append_left _ (List.mem_map_of_mem (contextConfigNamed_mem found))
  · refine List.mem_append_right _ ?_
    rcases Option.or_eq_some_iff.1 shared with own | ⟨-, other⟩
    · obtain ⟨default, known, rfl⟩ := Option.map_eq_some_iff.1 own
      exact List.mem_map.2 ⟨default, List.mem_append_left _ (by simp [known]), rfl⟩
    · obtain ⟨held, rfl, given⟩ := Option.bind_eq_some_iff.1 other
      obtain ⟨default, known, rfl⟩ := Option.map_eq_some_iff.1 given
      exact List.mem_map.2 ⟨default, List.mem_append_right _ (by simp [known]), rfl⟩

def FallsBackTo (upstream : UpstreamConfig) (profile : Option GlobalContextProfile)
    (caseInsensitive : Bool) (next model : Text) : Prop :=
  ∃ minimumContextLimit listed, listed.Perm (upstream.contextValues profile) ∧
    upstream.contextFallbackModelForWithProfileAndCase profile caseInsensitive model
      minimumContextLimit listed = some (some next)

theorem wellFounded_fallsBackTo
    (up : ∀ model minimumContextLimit,
      FallbackMovesUp upstream profile caseInsensitive model minimumContextLimit) :
    WellFounded (FallsBackTo upstream profile caseInsensitive) := by
  obtain ⟨bound, below⟩ := exists_limit_bound upstream profile caseInsensitive
  -- What is left between the limit of a model and the largest one.
  let room (model : Text) : Nat :=
    bound - (((upstream.contextConfigForModelWithProfileAndCase profile caseInsensitive
      model).getD none).elim 0 (·.contextLimit))
  refine Subrelation.wf ?_ (measure room).wf
  intro next model falls
  obtain ⟨minimum, listed, values, answered⟩ := falls
  obtain ⟨⟨-, current, resolved, config, start, -, configured, -, larger, -⟩, -⟩ :=
    up model minimum listed next values answered
  have within := below next config configured
  change room next < room model
  simp only [room, start.configured, configured, Option.getD_some, Option.elim_some]
  omega

end Upward

def smallContext : ModelContextConfig :=
  ⟨"small".toList, 100, 0, 0, "group".toList⟩

def largeContext : ModelContextConfig :=
  ⟨"large".toList, 200, 0, 0, "group".toList⟩

def renamedContextUpstream : UpstreamConfig where
  id := "upstream"
  supportedModels := ["small".toList, "stored".toList]
  modelMappings := [⟨"stored".toList, "large".toList⟩]
  modelContexts := [smallContext, largeContext]

end Models

end ChatGateway
