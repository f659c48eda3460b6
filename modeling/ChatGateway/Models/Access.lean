import ChatGateway.Models.Catalog
import Mathlib.Data.Char
import Mathlib.Data.Finset.Sort
import Mathlib.Data.List.Lex
import Mathlib.Order.Defs.LinearOrder

set_option autoImplicit false

/-!
# Model permissions

An allowlist is evaluated as a list of names and as a set of ids. The two are compared, and the
way back from the set to a list.
-/

namespace ChatGateway

inductive AllowedModels where
  | all
  | none
  | models (ids : Finset Text)
deriving DecidableEq

namespace AllowedModels

def fromGroup (models : List Text) (catalog : ModelCatalog) : Except String AllowedModels :=
  if models = [] ∨ models.any (fun name => Text.trim name = []) then
    .error "model group must contain nonempty model names"
  else if models.any (fun name => Text.trim name = denialSentinel) then
    if models.length = 1 then .ok .none
    else .error "denial sentinel cannot be combined with model names"
  else if models.any (fun name => Text.trim name = wildcardSentinel) then .ok .all
  else .ok (.models (models.map catalog.resolveGroupModelId).toFinset)

def fromLegacy (models : List Text) (catalog : ModelCatalog) : AllowedModels :=
  if models = [] then .all else (fromGroup models catalog).toOption.getD .none

def union : AllowedModels → AllowedModels → AllowedModels
  | .all, _ | _, .all => .all
  | .none, other | other, .none => other
  | .models left, .models right => .models (left ∪ right)

def intersection : AllowedModels → AllowedModels → AllowedModels
  | .none, _ | _, .none => .none
  | .all, other | other, .all => other
  | .models left, .models right => if left ∩ right = ∅ then .none else .models (left ∩ right)

def allows : AllowedModels → Text → Bool
  | .all, _ => true
  | .none, _ => false
  | .models ids, id => id ∈ ids

def legacyProjection : AllowedModels → List Text
  | .all => [wildcardSentinel]
  | .none => [denialSentinel]
  | .models ids => ids.sort (· ≤ ·)

inductive Obtained (catalog : ModelCatalog) : AllowedModels → Prop where
  | group (models : List Text) (allowed : AllowedModels)
      (built : fromGroup models catalog = .ok allowed) : Obtained catalog allowed
  | union (left right : AllowedModels) (one : Obtained catalog left)
      (two : Obtained catalog right) : Obtained catalog (left.union right)
  | intersection (left right : AllowedModels) (one : Obtained catalog left)
      (two : Obtained catalog right) : Obtained catalog (left.intersection right)

def sentinelFree : AllowedModels → Bool
  | .models ids => wildcardSentinel ∉ ids && denialSentinel ∉ ids
  | _ => true

end AllowedModels

def malformed (allowed : List Text) : Bool :=
  allowed.any fun value => Text.trim value = [] || Text.trim value = denialSentinel

def grants (catalog : ModelCatalog) (allowed : List Text) (id : Text) : Bool :=
  allowed.any fun value => Text.trim value = wildcardSentinel ||
    (Text.trim value ≠ [] && Text.trim value ≠ denialSentinel &&
      catalog.resolveGroupModelId value = id)

section Agreement

variable {catalog : ModelCatalog}

theorem fromLegacy_malformed {allowed : List Text} (bad : malformed allowed = true) :
    AllowedModels.fromLegacy allowed catalog = .none := by
  have some : allowed ≠ [] := by
    rintro rfl
    cases bad
  obtain ⟨value, member, wrong⟩ := List.any_eq_true.1 bad
  simp only [Bool.or_eq_true, decide_eq_true_eq] at wrong
  rw [AllowedModels.fromLegacy, if_neg some, AllowedModels.fromGroup]
  rcases wrong with blank | denial
  · rw [if_pos (.inr (List.any_eq_true.2 ⟨value, member, decide_eq_true blank⟩))]
    rfl
  · have sentinel : allowed.any (fun name => Text.trim name = denialSentinel) = true :=
      List.any_eq_true.2 ⟨value, member, decide_eq_true denial⟩
    split_ifs <;> rfl

theorem wellFormed_iff {allowed : List Text} : malformed allowed = false ↔
    ∀ value ∈ allowed, Text.trim value ≠ [] ∧ Text.trim value ≠ denialSentinel := by
  simp [malformed]

theorem fromLegacy_wellFormed {allowed : List Text} (some : allowed ≠ [])
    (good : malformed allowed = false) :
    AllowedModels.fromLegacy allowed catalog =
      if allowed.any (fun name => Text.trim name = wildcardSentinel) then .all
      else .models (allowed.map catalog.resolveGroupModelId).toFinset := by
  have each := wellFormed_iff.1 good
  have filled : ¬ (allowed = [] ∨ allowed.any (fun name => Text.trim name = []) = true) := by
    rintro (empty | blank)
    · exact some empty
    · obtain ⟨value, member, wrong⟩ := List.any_eq_true.1 blank
      exact (each value member).1 (of_decide_eq_true wrong)
  have allowing : ¬ allowed.any (fun name => Text.trim name = denialSentinel) = true := by
    intro denial
    obtain ⟨value, member, wrong⟩ := List.any_eq_true.1 denial
    exact (each value member).2 (of_decide_eq_true wrong)
  rw [AllowedModels.fromLegacy, if_neg some, AllowedModels.fromGroup, if_neg filled, if_neg allowing]
  split_ifs <;> rfl

theorem allowsLegacy_eq {allowed : List Text} {name id : Text}
    (requested : catalog.resolvePublicModelId name = some id) (filled : id ≠ []) :
    catalog.allowsLegacy allowed name =
      some (decide (allowed = []) || grants catalog allowed id) := by
  unfold ModelCatalog.allowsLegacy grants
  split_ifs with whole
  · rcases whole with empty | wildcard
    · simp [empty]
    · obtain ⟨value, member, here⟩ := List.any_eq_true.1 wildcard
      have granted : allowed.any (fun value => Text.trim value = wildcardSentinel ||
          (Text.trim value ≠ [] && Text.trim value ≠ denialSentinel &&
            catalog.resolveGroupModelId value = id)) = true :=
        List.any_eq_true.2 ⟨value, member, by rw [here, Bool.true_or]⟩
      rw [granted, Bool.or_true]
  · rw [not_or] at whole
    rw [requested, Option.map_some, decide_eq_false whole.1, Bool.false_or, decide_eq_true filled,
      Bool.true_and]
    have plain : ∀ value ∈ allowed, Text.trim value ≠ wildcardSentinel := fun value member here =>
      whole.2 (List.any_eq_true.2 ⟨value, member, decide_eq_true here⟩)
    rw [Option.some_inj, Bool.eq_iff_iff, List.any_eq_true, List.any_eq_true]
    refine exists_congr fun value => and_congr_right fun member => ?_
    rw [decide_eq_false (plain value member), Bool.false_or, ModelCatalog.resolveGroupModelId_trim]

-- The two evaluators differ just on a list that is malformed and lets the model in all the same.
theorem evaluators_agree {allowed : List Text} {name id : Text}
    (requested : catalog.resolvePublicModelId name = some id) (filled : id ≠ []) :
    some ((AllowedModels.fromLegacy allowed catalog).allows id) = catalog.allowsLegacy allowed name ↔
      ¬ (malformed allowed = true ∧ grants catalog allowed id = true) := by
  rw [allowsLegacy_eq requested filled, Option.some_inj]
  by_cases empty : allowed = []
  · subst empty
    simp [AllowedModels.fromLegacy, AllowedModels.allows, malformed]
  rw [decide_eq_false empty, Bool.false_or]
  cases bad : malformed allowed with
  | true =>
    rw [fromLegacy_malformed bad]
    cases grants catalog allowed id <;> simp [AllowedModels.allows]
  | false =>
    have each := wellFormed_iff.1 bad
    rw [fromLegacy_wellFormed empty bad]
    simp only [Bool.false_eq_true, false_and, not_false_eq_true, iff_true]
    split_ifs with wildcard
    · obtain ⟨value, member, here⟩ := List.any_eq_true.1 wildcard
      exact (List.any_eq_true.2 ⟨value, member, by rw [here, Bool.true_or]⟩).symm
    · rw [Bool.eq_iff_iff]
      simp only [AllowedModels.allows, decide_eq_true_eq, List.mem_toFinset, List.mem_map, grants,
        List.any_eq_true, Bool.or_eq_true, Bool.and_eq_true]
      constructor
      · rintro ⟨value, member, same⟩
        exact ⟨value, member, .inr ⟨each value member, same⟩⟩
      · rintro ⟨value, member, star | ⟨-, same⟩⟩
        · exact absurd (List.any_eq_true.2 ⟨value, member, decide_eq_true star⟩) wildcard
        · exact ⟨value, member, same⟩

structure Settled (catalog : ModelCatalog) (ids : Finset Text) : Prop where
  some : ids ≠ ∅
  trimmed : ∀ id ∈ ids, Text.trim id = id
  filled : ∀ id ∈ ids, id ≠ []
  fixed : ∀ id ∈ ids, catalog.resolveGroupModelId id = id

theorem settled_obtained {rules : List ModelAliasRule}
    (built : ModelAliasRegistry.fromRules rules = .ok catalog.aliases) {allowed : AllowedModels}
    (obtained : allowed.Obtained catalog) {ids : Finset Text} (same : allowed = .models ids) :
    Settled catalog ids := by
  induction obtained generalizing ids with
  | group models allowed from_ =>
    unfold AllowedModels.fromGroup at from_
    split_ifs at from_ with empty denial single wildcard
    · cases from_
      cases same
    · cases from_
      cases same
    · cases from_
      cases same
      rw [not_or] at empty
      have each : ∀ id ∈ (models.map catalog.resolveGroupModelId).toFinset,
          ∃ name ∈ models, catalog.resolveGroupModelId name = id := by
        intro id member
        simpa using member
      refine ⟨by simpa using empty.1, ?_, ?_, ?_⟩
      · intro id member
        obtain ⟨name, -, rfl⟩ := each id member
        exact catalog.trim_resolveGroupModelId name
      · intro id member
        obtain ⟨name, inside, rfl⟩ := each id member
        refine catalog.resolveGroupModelId_ne_nil built fun blank => empty.2 ?_
        exact List.any_eq_true.2 ⟨name, inside, decide_eq_true blank⟩
      · intro id member
        obtain ⟨name, -, rfl⟩ := each id member
        exact catalog.resolveGroupModelId_idem built name
  | union left right one two first second =>
    cases left <;> cases right <;> simp only [AllowedModels.union] at same
    all_goals cases same
    · exact second rfl
    · exact first rfl
    · obtain ⟨some, trimmed, filled, fixed⟩ := first rfl
      obtain ⟨-, trimmed', filled', fixed'⟩ := second rfl
      refine ⟨?_, ?_, ?_, ?_⟩
      · simp [Finset.union_eq_empty, some]
      · exact fun id member => (Finset.mem_union.1 member).elim (trimmed id) (trimmed' id)
      · exact fun id member => (Finset.mem_union.1 member).elim (filled id) (filled' id)
      · exact fun id member => (Finset.mem_union.1 member).elim (fixed id) (fixed' id)
  | intersection left right one two first second =>
    cases left <;> cases right <;> simp only [AllowedModels.intersection] at same
    all_goals try cases same
    · exact second rfl
    · exact first rfl
    · split_ifs at same with apart
      cases same
      obtain ⟨-, trimmed, filled, fixed⟩ := first rfl
      exact ⟨apart, fun id member => trimmed id (Finset.mem_inter.1 member).1,
        fun id member => filled id (Finset.mem_inter.1 member).1,
        fun id member => fixed id (Finset.mem_inter.1 member).1⟩

theorem fromLegacy_sort {ids : Finset Text} (settled : Settled catalog ids) :
    AllowedModels.fromLegacy (AllowedModels.models ids).legacyProjection catalog =
      if denialSentinel ∈ ids then .none
      else if wildcardSentinel ∈ ids then .all
      else .models ids := by
  have names : ∀ value, value ∈ ids.sort (· ≤ ·) ↔ value ∈ ids := fun value => Finset.mem_sort _
  have some : ids.sort (· ≤ ·) ≠ [] := by
    intro empty
    obtain ⟨id, member⟩ := Finset.nonempty_iff_ne_empty.2 settled.some
    have inside := (names id).2 member
    rw [empty] at inside
    cases inside
  rw [AllowedModels.legacyProjection]
  split_ifs with denial wildcard
  · refine fromLegacy_malformed (List.any_eq_true.2 ⟨denialSentinel, (names _).2 denial, ?_⟩)
    decide
  all_goals
    have good : malformed (ids.sort (· ≤ ·)) = false := by
      refine wellFormed_iff.2 fun value member => ?_
      rw [names] at member
      rw [settled.trimmed value member]
      exact ⟨settled.filled value member, fun same => denial (same ▸ member)⟩
    rw [fromLegacy_wellFormed some good]
  · rw [if_pos]
    refine List.any_eq_true.2 ⟨wildcardSentinel, (names _).2 wildcard, ?_⟩
    decide
  · rw [if_neg]
    · congr 1
      ext id
      simp only [List.mem_toFinset, List.mem_map, names]
      constructor
      · rintro ⟨name, member, rfl⟩
        rw [settled.fixed name member]
        exact member
      · exact fun member => ⟨id, member, settled.fixed id member⟩
    · intro star
      obtain ⟨value, member, here⟩ := List.any_eq_true.1 star
      rw [names] at member
      rw [decide_eq_true_eq, settled.trimmed value member] at here
      exact wildcard (here ▸ member)

theorem projection_agrees {rules : List ModelAliasRule}
    (built : ModelAliasRegistry.fromRules rules = .ok catalog.aliases) {allowed : AllowedModels}
    (obtained : allowed.Obtained catalog) :
    (∀ id, (AllowedModels.fromLegacy allowed.legacyProjection catalog).allows id =
      allowed.allows id) ↔ allowed.sentinelFree = true := by
  cases allowed with
  | all =>
    have same : AllowedModels.fromLegacy AllowedModels.all.legacyProjection catalog = .all := rfl
    simp [same, AllowedModels.sentinelFree]
  | none =>
    have same : AllowedModels.fromLegacy AllowedModels.none.legacyProjection catalog = .none := rfl
    simp [same, AllowedModels.sentinelFree]
  | models ids =>
    rw [fromLegacy_sort (settled_obtained built obtained rfl)]
    simp only [AllowedModels.sentinelFree, Bool.and_eq_true, decide_eq_true_eq]
    split_ifs with denial wildcard
    · refine ⟨fun same => ?_, fun free => absurd denial free.2⟩
      have wrong := same denialSentinel
      simp [AllowedModels.allows, denial] at wrong
    · -- Everything is allowed, but the set is finite.
      refine ⟨fun same => ?_, fun free => absurd wildcard free.1⟩
      obtain ⟨id, outside⟩ := Infinite.exists_notMem_finset ids
      have wrong := same id
      simp [AllowedModels.allows, outside] at wrong
    · exact ⟨fun _ => ⟨wildcard, denial⟩, fun _ _ => rfl⟩

end Agreement

/-- A list and its set of ids agree just when the list is well formed or lets the model not in, and
a set and its list just when no id reads as a sentinel. -/
theorem permission_evaluators_agree (catalog : ModelCatalog) (rules : List ModelAliasRule)
    (built : ModelAliasRegistry.fromRules rules = .ok catalog.aliases) :
    (∀ allowed name id, catalog.resolvePublicModelId name = some id → id ≠ [] →
      (some ((AllowedModels.fromLegacy allowed catalog).allows id) =
          catalog.allowsLegacy allowed name ↔
        ¬ (malformed allowed = true ∧ grants catalog allowed id = true))) ∧
    ∀ allowed : AllowedModels, allowed.Obtained catalog →
      ((∀ id, (AllowedModels.fromLegacy allowed.legacyProjection catalog).allows id =
        allowed.allows id) ↔ allowed.sentinelFree = true) :=
  ⟨fun _ _ _ requested filled => evaluators_agree requested filled,
    fun _ obtained => projection_agrees built obtained⟩

def plainCatalog : ModelCatalog where
  caseInsensitive := true

theorem permission_evaluators_agree_plain :
    some ((AllowedModels.fromLegacy ["gpt".toList] plainCatalog).allows "gpt".toList) =
      plainCatalog.allowsLegacy ["gpt".toList] "GPT".toList :=
  ((permission_evaluators_agree plainCatalog [] rfl).1 ["gpt".toList] "GPT".toList "gpt".toList
    (by decide +kernel) (by decide)).2 (by decide +kernel)

/-- A blank entry beside a model: the set denies what the list allows. -/
theorem blank_entry_denies :
    (AllowedModels.fromLegacy ["gpt".toList, []] plainCatalog).allows "gpt".toList = false ∧
      plainCatalog.resolvePublicModelId "gpt".toList = some "gpt".toList ∧
      plainCatalog.allowsLegacy ["gpt".toList, []] "gpt".toList = some true := by
  decide +kernel

end ChatGateway
