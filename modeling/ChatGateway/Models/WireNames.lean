import ChatGateway.Models.Catalog

set_option autoImplicit false

/-!
# Model names from the wire

The readers of a requested model name. The variant suffix is split off at a number of bytes, and a
split inside a character panics.
-/

namespace ChatGateway

def canonicalSubagentBaseModelId (model subagentSuffix : Text) : Option (Option Text) :=
  let model := Text.trim model
  if model = [] then some none
  else if model.utf8.length < subagentSuffix.utf8.length then some none
  else
    (splitAtBytes model (model.utf8.length - subagentSuffix.utf8.length)).map fun split =>
      if split.1 = [] ∨ split.2 ≠ subagentSuffix then none else some (canonicalModelId split.1)

def normalizeModelName (model : Text) : Option Text :=
  let model := Text.trim model
  if model = [] then none else some (model.map asciiLower)

def portalModelIsAllowed (allowlist : List Text) (model : Text) : Option Bool :=
  if allowlist = [] then some true
  else
    let rawModel := Text.trim model
    match normalizeModelName rawModel with
    | none => some false
    | some model =>
      (codexSubagentBaseModel rawModel).map fun base =>
        (allowlist.filterMap normalizeModelName).any fun allowed =>
          allowed = (base.bind normalizeModelName).getD model

def modelListAllows (allowlist : List Text) (model : Text) : Option Bool :=
  if allowlist = [] then some true
  else if allowlist.any (· = wildcardSentinel) then some true
  else portalModelIsAllowed allowlist model

namespace ModelCatalog

-- The second search of `find`. The id is computed anew for every model whose name differs.
def findResolved (catalog : ModelCatalog) (name canonical : Text) :
    List PublishedModel → Option (Option PublishedModel)
  | [] => some none
  | model :: rest =>
    if model.name = canonical then some (some model)
    else if catalog.caseInsensitive then
      (catalog.resolvePublicModelId name).bind fun id =>
        if model.id = id then some (some model) else catalog.findResolved name canonical rest
    else catalog.findResolved name canonical rest

def find (catalog : ModelCatalog) (name : Text) : Option (Option PublishedModel) :=
  match catalog.models.find? fun model => model.name = Text.trim name with
  | some model => some (some model)
  | none =>
    catalog.findResolved name (Text.trim ((catalog.aliases.resolveAlias name).getD name))
      catalog.models

end ModelCatalog

def SplitsBefore (suffix text : Text) : Prop :=
  text.utf8.length < suffix.utf8.length ∨
    ∃ front tail, text = front ++ tail ∧ tail.utf8.length = suffix.utf8.length

theorem Text.utf8_append (front tail : Text) : (front ++ tail).utf8 = front.utf8 ++ tail.utf8 :=
  List.flatMap_append

theorem Text.length_utf8_cons (letter : Char) (rest : Text) :
    (Text.utf8 (letter :: rest)).length = letter.utf8Size + rest.utf8.length := by
  rw [Text.utf8, List.flatMap_cons, List.length_append, String.length_utf8EncodeChar]
  rfl

theorem splitAtBytes_append (front tail : Text) :
    splitAtBytes (front ++ tail) front.utf8.length = some (front, tail) := by
  -- The budget of bytes is used up character by character, each of one byte at least.
  induction front with
  | nil => cases tail <;> rfl
  | cons letter rest ih =>
    have positive := Char.utf8Size_pos letter
    have nonzero : letter.utf8Size + (Text.utf8 rest).length ≠ 0 := by omega
    obtain ⟨bytes, same⟩ := Nat.exists_eq_succ_of_ne_zero nonzero
    have left : bytes + 1 - letter.utf8Size = (Text.utf8 rest).length := by omega
    rw [Text.length_utf8_cons, same, List.cons_append, splitAtBytes, if_pos (by omega), left, ih]
    rfl

theorem splitAtBytes_eq_some {text front tail : Text} {bytes : Nat}
    (split : splitAtBytes text bytes = some (front, tail)) :
    text = front ++ tail ∧ front.utf8.length = bytes := by
  induction text generalizing bytes front with
  | nil =>
    cases bytes with
    | zero =>
      cases split
      exact ⟨rfl, rfl⟩
    | succ bytes => cases split
  | cons letter rest ih =>
    cases bytes with
    | zero =>
      cases split
      exact ⟨rfl, rfl⟩
    | succ bytes =>
      rw [splitAtBytes] at split
      by_cases fits : letter.utf8Size ≤ bytes + 1
      · rw [if_pos fits, Option.map_eq_some_iff] at split
        obtain ⟨⟨more, tail⟩, later, same⟩ := split
        cases same
        obtain ⟨whole, count⟩ := ih later
        rw [whole, Text.length_utf8_cons, count]
        exact ⟨rfl, by omega⟩
      · rw [if_neg fits] at split
        cases split

theorem splitAtBytes_isSome_iff {text suffix : Text}
    (long : suffix.utf8.length ≤ text.utf8.length) :
    (splitAtBytes text (text.utf8.length - suffix.utf8.length)).isSome ↔
      SplitsBefore suffix text := by
  constructor
  · intro splits
    obtain ⟨⟨front, tail⟩, split⟩ := Option.isSome_iff_exists.1 splits
    obtain ⟨whole, count⟩ := splitAtBytes_eq_some split
    have total := congrArg (fun text => text.utf8.length) whole
    simp only [Text.utf8_append, List.length_append] at total
    exact .inr ⟨front, tail, whole, by omega⟩
  · rintro (short | ⟨front, tail, rfl, same⟩)
    · omega
    · have count : (front ++ tail).utf8.length - suffix.utf8.length = front.utf8.length := by
        rw [Text.utf8_append, List.length_append]
        omega
      rw [count, splitAtBytes_append]
      rfl

theorem splitAtBytes_suffix (base suffix : Text) :
    splitAtBytes (base ++ suffix) ((base ++ suffix).utf8.length - suffix.utf8.length) =
      some (base, suffix) := by
  have count : (base ++ suffix).utf8.length - suffix.utf8.length = base.utf8.length := by
    rw [Text.utf8_append, List.length_append]
    omega
  rw [count, splitAtBytes_append]

theorem length_suffix_le (base suffix : Text) : suffix.utf8.length ≤ (base ++ suffix).utf8.length := by
  rw [Text.utf8_append, List.length_append]
  omega

theorem splitAtBytes_reads {text suffix : Text} (splits : SplitsBefore suffix text)
    (long : suffix.utf8.length ≤ text.utf8.length) :
    ∃ front tail, splitAtBytes text (text.utf8.length - suffix.utf8.length) = some (front, tail) ∧
      ∀ base, text = base ++ suffix ↔ base = front ∧ tail = suffix := by
  obtain ⟨⟨front, tail⟩, split⟩ :=
    Option.isSome_iff_exists.1 ((splitAtBytes_isSome_iff long).2 splits)
  refine ⟨front, tail, split, fun base => ⟨?_, ?_⟩⟩
  · rintro rfl
    rw [splitAtBytes_suffix] at split
    cases split
    exact ⟨rfl, rfl⟩
  · rintro ⟨rfl, rfl⟩
    exact (splitAtBytes_eq_some split).1

theorem codexSubagentBaseModel_isSome_iff (model : Text) :
    (codexSubagentBaseModel model).isSome ↔
      SplitsBefore codexSubagentModelVariantSuffix (Text.trim model) := by
  unfold codexSubagentBaseModel
  dsimp only
  by_cases short : (Text.trim model).utf8.length < codexSubagentModelVariantSuffix.utf8.length
  · rw [if_pos short]
    exact ⟨fun _ => .inl short, fun _ => rfl⟩
  · rw [if_neg short, Option.isSome_map]
    exact splitAtBytes_isSome_iff (Nat.not_lt.1 short)

theorem codexSubagentBaseModel_reads {model : Text}
    (splits : SplitsBefore codexSubagentModelVariantSuffix (Text.trim model)) :
    ∃ answer, codexSubagentBaseModel model = some answer ∧
      ∀ base, answer = some base ↔
        base ≠ [] ∧ Text.trim model = base ++ codexSubagentModelVariantSuffix := by
  unfold codexSubagentBaseModel
  dsimp only
  generalize Text.trim model = name at splits
  generalize codexSubagentModelVariantSuffix = suffix at splits
  by_cases short : name.utf8.length < suffix.utf8.length
  · -- A shorter name has no base, and no split is made.
    refine ⟨none, if_pos short, fun base => ⟨by rintro ⟨⟩, ?_⟩⟩
    rintro ⟨-, rfl⟩
    exact absurd short (Nat.not_lt.2 (length_suffix_le base suffix))
  · obtain ⟨front, tail, split, reads⟩ := splitAtBytes_reads splits (Nat.not_lt.1 short)
    refine ⟨if front ≠ [] ∧ tail = suffix then some front else none, ?_, fun base => ?_⟩
    · rw [if_neg short, split]
      rfl
    · rw [reads base]
      by_cases whole : front ≠ [] ∧ tail = suffix
      · rw [if_pos whole, Option.some_inj]
        constructor
        · rintro rfl
          exact ⟨whole.1, rfl, whole.2⟩
        · rintro ⟨-, rfl, -⟩
          rfl
      · rw [if_neg whole]
        refine ⟨by rintro ⟨⟩, ?_⟩
        rintro ⟨filled, rfl, same⟩
        exact absurd ⟨filled, same⟩ whole

theorem canonicalSubagentBaseModelId_isSome_iff (model suffix : Text) :
    (canonicalSubagentBaseModelId model suffix).isSome ↔ SplitsBefore suffix (Text.trim model) := by
  unfold canonicalSubagentBaseModelId
  dsimp only
  by_cases empty : Text.trim model = []
  · rw [if_pos empty, empty]
    refine ⟨fun _ => ?_, fun _ => rfl⟩
    by_cases blank : suffix.utf8.length = 0
    · exact .inr ⟨[], [], rfl, blank.symm⟩
    · exact .inl (Nat.pos_of_ne_zero blank)
  · rw [if_neg empty]
    by_cases short : (Text.trim model).utf8.length < suffix.utf8.length
    · rw [if_pos short]
      exact ⟨fun _ => .inl short, fun _ => rfl⟩
    · rw [if_neg short, Option.isSome_map]
      exact splitAtBytes_isSome_iff (Nat.not_lt.1 short)

theorem canonicalSubagentBaseModelId_reads {model suffix : Text}
    (splits : SplitsBefore suffix (Text.trim model)) :
    ∃ answer, canonicalSubagentBaseModelId model suffix = some answer ∧
      ∀ id, answer = some id ↔
        ∃ base, base ≠ [] ∧ Text.trim model = base ++ suffix ∧ id = canonicalModelId base := by
  unfold canonicalSubagentBaseModelId
  dsimp only
  generalize Text.trim model = name at splits
  by_cases empty : name = []
  · refine ⟨none, if_pos empty, fun id => ⟨by rintro ⟨⟩, ?_⟩⟩
    rintro ⟨base, filled, whole, -⟩
    rw [empty] at whole
    exact absurd (List.append_eq_nil_iff.1 whole.symm).1 filled
  by_cases short : name.utf8.length < suffix.utf8.length
  · refine ⟨none, by rw [if_neg empty, if_pos short], fun id => ⟨by rintro ⟨⟩, ?_⟩⟩
    rintro ⟨base, -, rfl, -⟩
    exact absurd short (Nat.not_lt.2 (length_suffix_le base suffix))
  · obtain ⟨front, tail, split, reads⟩ := splitAtBytes_reads splits (Nat.not_lt.1 short)
    refine ⟨if front = [] ∨ tail ≠ suffix then none else some (canonicalModelId front), ?_,
      fun id => ?_⟩
    · rw [if_neg empty, if_neg short, split]
      rfl
    · by_cases other : front = [] ∨ tail ≠ suffix
      · rw [if_pos other]
        refine ⟨by rintro ⟨⟩, ?_⟩
        rintro ⟨base, filled, whole, -⟩
        obtain ⟨rfl, same⟩ := (reads base).1 whole
        exact other.elim (absurd · filled) (absurd same)
      · obtain ⟨filled, same⟩ := not_or.1 other
        rw [if_neg other, Option.some_inj]
        constructor
        · rintro rfl
          exact ⟨front, filled, (reads front).2 ⟨rfl, not_not.1 same⟩, rfl⟩
        · rintro ⟨base, -, whole, rfl⟩
          rw [((reads base).1 whole).1]

theorem canonicalSubagentBaseModelId_codex (model : Text) :
    canonicalSubagentBaseModelId model codexSubagentModelVariantSuffix =
      (codexSubagentBaseModel model).map fun base => base.map canonicalModelId := by
  unfold canonicalSubagentBaseModelId codexSubagentBaseModel
  dsimp only
  by_cases empty : Text.trim model = []
  · rw [if_pos empty, if_pos (by rw [empty]; decide)]
    rfl
  · rw [if_neg empty]
    split
    · rfl
    · rw [Option.map_map]
      refine congrArg (fun read => Option.map read _) (funext fun split => ?_)
      by_cases whole : split.1 ≠ [] ∧ split.2 = codexSubagentModelVariantSuffix
      · rw [if_neg (by tauto), Function.comp_apply, if_pos whole]
        rfl
      · rw [if_pos (by tauto), Function.comp_apply, if_neg whole]
        rfl

section Total

variable {model : Text} (reads : (codexSubagentBaseModel model).isSome)

include reads

theorem portalModelIsAllowed_isSome (allowlist : List Text) :
    (portalModelIsAllowed allowlist model).isSome := by
  unfold portalModelIsAllowed
  dsimp only
  split
  · rfl
  split
  · rfl
  · rw [Option.isSome_map, codexSubagentBaseModel_isSome_iff, trim_trim,
      ← codexSubagentBaseModel_isSome_iff]
    exact reads

theorem modelListAllows_isSome (allowlist : List Text) :
    (modelListAllows allowlist model).isSome := by
  unfold modelListAllows
  split
  · rfl
  split
  · rfl
  · exact portalModelIsAllowed_isSome reads allowlist

namespace ModelCatalog

variable (catalog : ModelCatalog)

theorem resolvePublicModelId_isSome : (catalog.resolvePublicModelId model).isSome := by
  rw [resolvePublicModelId, Option.isSome_map]
  exact reads

theorem findResolved_isSome (canonical : Text) (models : List PublishedModel) :
    (catalog.findResolved model canonical models).isSome := by
  induction models with
  | nil => rfl
  | cons first rest ih =>
    rw [findResolved]
    split
    · rfl
    split
    · obtain ⟨id, resolved⟩ :=
        Option.isSome_iff_exists.1 (catalog.resolvePublicModelId_isSome reads)
      rw [resolved, Option.bind_some]
      split
      · rfl
      · exact ih
    · exact ih

theorem find_isSome : (catalog.find model).isSome := by
  unfold find
  split
  · rfl
  · exact catalog.findResolved_isSome reads _ _

theorem allowsLegacy_isSome (allowed : List Text) : (catalog.allowsLegacy allowed model).isSome := by
  unfold allowsLegacy
  split
  · rfl
  · rw [Option.isSome_map]
    exact catalog.resolvePublicModelId_isSome reads

end ModelCatalog

end Total

structure ReadEverywhere (model suffix : Text) : Prop where
  variant : ∃ answer, codexSubagentBaseModel model = some answer ∧
    ∀ base, answer = some base ↔
      base ≠ [] ∧ Text.trim model = base ++ codexSubagentModelVariantSuffix
  canonical : ∃ answer, canonicalSubagentBaseModelId model suffix = some answer ∧
    ∀ id, answer = some id ↔
      ∃ base, base ≠ [] ∧ Text.trim model = base ++ suffix ∧ id = canonicalModelId base
  agree : canonicalSubagentBaseModelId model codexSubagentModelVariantSuffix =
    (codexSubagentBaseModel model).map fun base => base.map canonicalModelId
  lists : ∀ allowlist, (portalModelIsAllowed allowlist model).isSome ∧
    (modelListAllows allowlist model).isSome
  catalogs : ∀ catalog : ModelCatalog, (catalog.resolvePublicModelId model).isSome ∧
    (catalog.find model).isSome ∧ ∀ allowed, (catalog.allowsLegacy allowed model).isSome

theorem read_everywhere_iff (model suffix : Text) :
    ReadEverywhere model suffix ↔
      SplitsBefore codexSubagentModelVariantSuffix (Text.trim model) ∧
        SplitsBefore suffix (Text.trim model) := by
  constructor
  · intro read
    obtain ⟨base, variant, -⟩ := read.variant
    obtain ⟨id, canonical, -⟩ := read.canonical
    exact ⟨(codexSubagentBaseModel_isSome_iff model).1 (by rw [variant]; rfl),
      (canonicalSubagentBaseModelId_isSome_iff model suffix).1 (by rw [canonical]; rfl)⟩
  · rintro ⟨codex, own⟩
    have reads := (codexSubagentBaseModel_isSome_iff model).2 codex
    exact {
      variant := codexSubagentBaseModel_reads codex
      canonical := canonicalSubagentBaseModelId_reads own
      agree := canonicalSubagentBaseModelId_codex model
      lists := fun allowlist =>
        ⟨portalModelIsAllowed_isSome reads allowlist, modelListAllows_isSome reads allowlist⟩
      catalogs := fun catalog => ⟨catalog.resolvePublicModelId_isSome reads,
        catalog.find_isSome reads, catalog.allowsLegacy_isSome reads⟩ }

/-- Six characters of three bytes each: thirteen bytes before the end is inside the second. -/
theorem wide_name_panics :
    ¬∀ model suffix, ReadEverywhere model suffix := by
  intro claimed
  obtain ⟨answer, variant, -⟩ :=
    (claimed "模型模型模型".toList codexSubagentModelVariantSuffix).variant
  have panics : codexSubagentBaseModel "模型模型模型".toList = none := by decide +kernel
  rw [panics] at variant
  cases variant

end ChatGateway
