import ChatGateway.Shared.Fallible
import ChatGateway.Shared.Table
import ChatGateway.Shared.Text
import Mathlib.Data.Finset.Insert
import Mathlib.Data.List.DropRight
import Mathlib.Data.List.TakeWhile
import Mathlib.Tactic.IntervalCases

set_option autoImplicit false

/-!
# Model identity

Which spellings are the same model: folded in case, resolved by alias rules, and freed of the
variant suffix.
-/

namespace ChatGateway

def asciiLower (letter : Char) : Char :=
  if 'A' ≤ letter ∧ letter ≤ 'Z' then Char.ofNat (letter.toNat + 32) else letter

def canonicalModelId (model : Text) : Text :=
  (Text.trim model).map asciiLower

def modelIdentityKeyWith (model : Text) (caseInsensitive : Bool) : Text :=
  if caseInsensitive then canonicalModelId model else Text.trim model

def codexSubagentModelVariantSuffix : Text := "-fast-preview".toList

def splitAtBytes : Text → Nat → Option (Text × Text)
  | text, 0 => some ([], text)
  | [], _ + 1 => none
  | letter :: rest, bytes + 1 =>
    if letter.utf8Size ≤ bytes + 1 then
      (splitAtBytes rest (bytes + 1 - letter.utf8Size)).map fun split =>
        (letter :: split.1, split.2)
    else none

def codexSubagentBaseModel (model : Text) : Option (Option Text) :=
  let trimmed := Text.trim model
  let suffixBytes := codexSubagentModelVariantSuffix.utf8.length
  if trimmed.utf8.length < suffixBytes then some none
  else
    (splitAtBytes trimmed (trimmed.utf8.length - suffixBytes)).map fun split =>
      if split.1 ≠ [] ∧ split.2 = codexSubagentModelVariantSuffix then some split.1 else none

structure ModelAliasRule where
  canonical : Text
  aliases : List Text
deriving DecidableEq, Repr

def ModelAliasRule.validateSelf (rule : ModelAliasRule) : Except String Unit :=
  if Text.trim rule.canonical = [] then
    .error "canonical model name cannot be empty or whitespace-only"
  else
    match rule.aliases.findIdx? fun other => Text.trim other = [] with
    | some index => .error ("alias at index " ++ toString index ++ " is empty or whitespace-only")
    | none => .ok ()

structure ModelAliasRegistry where
  rules : List ModelAliasRule := []
  aliasToCanonical : Table Text Text := ∅

structure AliasesSoFar where
  aliasToCanonical : Table Text Text := ∅
  seenCanonicals : Finset Text := ∅

namespace AliasesSoFar

def registerAlias (rule : ModelAliasRule) (known : AliasesSoFar) (name : Text) :
    Except String AliasesSoFar :=
  let aliasKey := canonicalModelId name
  if aliasKey = [] then
    .error ("alias '" ++ String.ofList name ++ "' becomes empty after trimming")
  else if aliasKey ∈ known.seenCanonicals then
    .error ("alias '" ++ String.ofList name ++ "' conflicts with a canonical name from another rule")
  else
    match known.aliasToCanonical.lookup aliasKey with
    | some existing =>
      if canonicalModelId existing ≠ canonicalModelId rule.canonical then
        .error ("alias '" ++ String.ofList name ++ "' appears in multiple rules: '" ++
          String.ofList existing ++ "' and '" ++ String.ofList rule.canonical ++ "'")
      else .ok known
    | none =>
      .ok { known with
        aliasToCanonical := known.aliasToCanonical.insert aliasKey rule.canonical }

def registerRule (known : AliasesSoFar) (rule : ModelAliasRule) : Except String AliasesSoFar := do
  rule.validateSelf
  let canonicalKey := canonicalModelId rule.canonical
  if canonicalKey = [] then
    .error ("canonical name '" ++ String.ofList rule.canonical ++ "' becomes empty after trimming")
  else if (known.aliasToCanonical.lookup canonicalKey).isSome then
    .error ("canonical name '" ++ String.ofList rule.canonical ++
      "' is already used as an alias in another rule")
  else
    rule.aliases.foldlM (registerAlias rule)
      { known with seenCanonicals := insert canonicalKey known.seenCanonicals }

end AliasesSoFar

namespace ModelAliasRegistry

def fromRules (rules : List ModelAliasRule) : Except String ModelAliasRegistry :=
  (rules.foldlM AliasesSoFar.registerRule {}).map fun known =>
    { rules, aliasToCanonical := known.aliasToCanonical }

def resolveAlias (registry : ModelAliasRegistry) (model : Text) : Option Text :=
  let key := canonicalModelId model
  if key = [] then none else registry.aliasToCanonical.lookup key

end ModelAliasRegistry

theorem upper_code {letter : Char} (upper : 'A' ≤ letter ∧ letter ≤ 'Z') : ∃ code,
    65 ≤ code ∧ code ≤ 90 ∧ letter = Char.ofNat code :=
  ⟨letter.toNat, upper.1, upper.2, (Char.ofNat_toNat letter).symm⟩

theorem isWhitespace_asciiLower (letter : Char) :
    Text.isWhitespace (asciiLower letter) = Text.isWhitespace letter := by
  by_cases upper : 'A' ≤ letter ∧ letter ≤ 'Z'
  · obtain ⟨code, low, high, rfl⟩ := upper_code upper
    interval_cases code <;> decide
  · rw [asciiLower, if_neg upper]

theorem asciiLower_asciiLower (letter : Char) :
    asciiLower (asciiLower letter) = asciiLower letter := by
  by_cases upper : 'A' ≤ letter ∧ letter ≤ 'Z'
  · obtain ⟨code, low, high, rfl⟩ := upper_code upper
    interval_cases code <;> decide
  · have same : asciiLower letter = letter := by rw [asciiLower, if_neg upper]
    rw [same, same]

theorem dropWhile_asciiLower (text : Text) :
    (text.map asciiLower).dropWhile Text.isWhitespace =
      (text.dropWhile Text.isWhitespace).map asciiLower := by
  have same : Text.isWhitespace ∘ asciiLower = Text.isWhitespace :=
    funext isWhitespace_asciiLower
  rw [List.dropWhile_map, same]

theorem trim_asciiLower (text : Text) :
    Text.trim (text.map asciiLower) = (Text.trim text).map asciiLower := by
  unfold Text.trim
  rw [dropWhile_asciiLower, ← List.map_reverse, dropWhile_asciiLower, List.map_reverse]

theorem trim_trim (text : Text) : Text.trim (Text.trim text) = Text.trim text := by
  have form (text : Text) : Text.trim text =
      (text.dropWhile Text.isWhitespace).rdropWhile Text.isWhitespace := rfl
  rw [form (Text.trim text)]
  have front : Text.trim text <+: text.dropWhile Text.isWhitespace := List.rdropWhile_prefix ..
  have kept : (Text.trim text).dropWhile Text.isWhitespace = Text.trim text := by
    obtain ⟨rest, split⟩ := front
    cases left : Text.trim text with
    | nil => rfl
    | cons letter more =>
      -- What is left starts where the blanks in front end.
      have head := List.head?_dropWhile_not Text.isWhitespace text
      rw [← split, left] at head
      have solid : Text.isWhitespace letter = false := by simpa using head
      simp [solid]
  rw [kept, form text, List.rdropWhile_idempotent]

@[simp] theorem canonicalModelId_idem (model : Text) :
    canonicalModelId (canonicalModelId model) = canonicalModelId model := by
  unfold canonicalModelId
  rw [trim_asciiLower, trim_trim, List.map_map]
  exact List.map_congr_left fun letter _ => asciiLower_asciiLower letter

@[simp] theorem canonicalModelId_trim (model : Text) :
    canonicalModelId (Text.trim model) = canonicalModelId model := by
  rw [canonicalModelId, trim_trim, canonicalModelId]

theorem trim_canonicalModelId (model : Text) :
    Text.trim (canonicalModelId model) = canonicalModelId model := by
  rw [canonicalModelId, trim_asciiLower, trim_trim]

theorem canonicalModelId_eq_nil {model : Text} : canonicalModelId model = [] ↔ Text.trim model = [] := by
  simp [canonicalModelId]

structure AliasesSoFar.Valid (known : AliasesSoFar) : Prop where
  canonical : ∀ key name, known.aliasToCanonical.lookup key = some name →
    canonicalModelId name ∈ known.seenCanonicals
  filled : [] ∉ known.seenCanonicals
  apart : ∀ key ∈ known.seenCanonicals, known.aliasToCanonical.lookup key = none

namespace AliasesSoFar

variable {known next : AliasesSoFar} {rule : ModelAliasRule}

theorem valid_registerAlias (valid : known.Valid)
    (seen : canonicalModelId rule.canonical ∈ known.seenCanonicals) {name : Text}
    (registered : registerAlias rule known name = .ok next) :
    next.Valid ∧ next.seenCanonicals = known.seenCanonicals := by
  unfold registerAlias at registered
  dsimp only at registered
  split_ifs at registered with empty clash
  split at registered
  · split_ifs at registered with other
    cases registered
    exact ⟨valid, rfl⟩
  · cases registered
    refine ⟨⟨?_, valid.filled, ?_⟩, rfl⟩
    · intro key canonical looked
      rw [Table.lookup_insert_eq] at looked
      split_ifs at looked with same
      · cases looked
        exact seen
      · exact valid.canonical key canonical looked
    · intro key member
      have other : key ≠ canonicalModelId name := fun same => clash (same ▸ member)
      rw [Table.lookup_insert_eq, if_neg other]
      exact valid.apart key member

theorem valid_registerAliases (valid : known.Valid)
    (seen : canonicalModelId rule.canonical ∈ known.seenCanonicals) {names : List Text}
    (registered : names.foldlM (registerAlias rule) known = .ok next) : next.Valid := by
  let Invariant (known : AliasesSoFar) : Prop :=
    known.Valid ∧ canonicalModelId rule.canonical ∈ known.seenCanonicals
  refine (@Except.foldlM_invariant _ _ _ _ Invariant _ _ _ ?_ ⟨valid, seen⟩ registered).1
  rintro state name after - ⟨valid, seen⟩ step
  obtain ⟨next, same⟩ := valid_registerAlias valid seen step
  exact ⟨next, same ▸ seen⟩

theorem valid_registerRule (valid : known.Valid) (registered : known.registerRule rule = .ok next) :
    next.Valid := by
  unfold registerRule at registered
  rw [Except.bind_eq_ok] at registered
  obtain ⟨_, -, registered⟩ := registered
  dsimp only at registered
  split_ifs at registered with empty clash
  refine valid_registerAliases ⟨?_, ?_, ?_⟩ (Finset.mem_insert_self ..) registered
  · intro key name looked
    exact Finset.mem_insert_of_mem (valid.canonical key name looked)
  · intro member
    rcases Finset.mem_insert.1 member with same | earlier
    · exact empty same.symm
    · exact valid.filled earlier
  · intro key member
    rcases Finset.mem_insert.1 member with same | earlier
    · rw [same]
      simpa using clash
    · exact valid.apart key earlier

end AliasesSoFar

namespace ModelAliasRegistry

variable {rules : List ModelAliasRule} {registry : ModelAliasRegistry}

theorem fromRules_valid (built : fromRules rules = .ok registry) : ∃ known : AliasesSoFar,
    known.Valid ∧ known.aliasToCanonical = registry.aliasToCanonical := by
  obtain ⟨known, folded, rfl⟩ := Except.map_eq_ok.1 built
  refine ⟨known, ?_, rfl⟩
  exact Except.foldlM_invariant (fun _ _ _ _ valid step => AliasesSoFar.valid_registerRule valid step)
    ⟨by simp, by simp, by simp⟩ folded

theorem resolveAlias_canonical (built : fromRules rules = .ok registry) {model name : Text}
    (resolved : registry.resolveAlias model = some name) :
    canonicalModelId name ≠ [] ∧ registry.resolveAlias (canonicalModelId name) = none := by
  obtain ⟨known, valid, same⟩ := fromRules_valid built
  unfold resolveAlias at resolved
  dsimp only at resolved
  split_ifs at resolved with blank
  rw [← same] at resolved
  have seen := valid.canonical _ _ resolved
  refine ⟨fun empty => valid.filled (empty ▸ seen), ?_⟩
  unfold resolveAlias
  dsimp only
  rw [canonicalModelId_idem, ← same, valid.apart _ seen, ite_self]

end ModelAliasRegistry

end ChatGateway
