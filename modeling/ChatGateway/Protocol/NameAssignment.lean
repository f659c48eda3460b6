import ChatGateway.Protocol.ToolNames
import Mathlib.Data.Nat.Digits.Defs
import Mathlib.Tactic.IntervalCases

set_option autoImplicit false

/-!
# The assignment of upstream names

The form of generated names, the end of the loop that looks for a free one, and what the assignment
does not depend on.
-/

namespace ChatGateway

def hexText (bytes : List UInt8) : Text :=
  bytes.flatMap fun byte => [(byte.toNat / 16).digitChar, (byte.toNat % 16).digitChar]

theorem length_hexText (bytes : List UInt8) : (hexText bytes).length = 2 * bytes.length := by
  induction bytes with
  | nil => rfl
  | cons byte rest ih =>
    rw [hexText, List.flatMap_cons, List.length_append, ← hexText, ih]
    simp only [List.length_cons, List.length_nil]
    omega

def Sha256.ofDigest (digest : List UInt8 → Vector UInt8 32) : Sha256 where
  hex bytes := hexText (digest bytes).toList
  hex_length bytes := by simp [length_hexText]

def isNameLetter (letter : Char) : Bool :=
  letter.isAlphanum || isNameSeparator letter

structure GeneratedForm (name : String) : Prop where
  short : name.toList.length ≤ 64
  marked : "gw_".toList <+: name.toList
  letters : ∀ letter ∈ name.toList, isNameLetter letter = true

theorem isNameLetter_digitChar {value : Nat} (digit : value < 16) :
    isNameLetter value.digitChar = true := by
  interval_cases value <;> decide

theorem isNameLetter_hexText {bytes : List UInt8} {letter : Char} (member : letter ∈ hexText bytes) :
    isNameLetter letter = true := by
  obtain ⟨byte, -, digit⟩ := List.mem_flatMap.mp member
  have bounded := byte.toNat_lt
  rcases List.mem_pair.mp digit with rfl | rfl
  · exact isNameLetter_digitChar (by omega)
  · exact isNameLetter_digitChar (by omega)

theorem isNameLetter_sanitizeChars {lastWasSeparator : Bool} {text : Text} {letter : Char}
    (member : letter ∈ sanitizeChars lastWasSeparator text) : isNameLetter letter = true := by
  induction text generalizing lastWasSeparator with
  | nil => cases member
  | cons head rest ih =>
    rw [sanitizeChars] at member
    split at member
    next allowed =>
      rcases List.mem_cons.mp member with rfl | later
      · exact allowed
      · exact ih later
    next =>
      split at member
      next => exact ih member
      next =>
        rcases List.mem_cons.mp member with rfl | later
        · decide
        · exact ih later

theorem mem_trimEndMatches {mark : Char → Bool} {text : Text} {letter : Char}
    (member : letter ∈ trimEndMatches mark text) : letter ∈ text := by
  rw [trimEndMatches, List.mem_reverse] at member
  exact List.mem_reverse.mp ((List.dropWhile_sublist mark).mem member)

theorem length_trimEndMatches (mark : Char → Bool) (text : Text) :
    (trimEndMatches mark text).length ≤ text.length := by
  rw [trimEndMatches, List.length_reverse]
  exact (List.dropWhile_sublist mark).length_le.trans (by rw [List.length_reverse])

theorem isNameLetter_tool {letter : Char} (member : letter ∈ "tool".toList) :
    isNameLetter letter = true := by
  have all : "tool".toList.all isNameLetter = true := by decide
  exact List.all_eq_true.1 all letter member

theorem isNameLetter_sanitizeMiddle {identity : ToolIdentity} {letter : Char}
    (member : letter ∈ sanitizeMiddle identity) : isNameLetter letter = true := by
  have cleaned : ∀ raw : Text,
      letter ∈ (if (trimEndMatches isNameSeparator
          ((sanitizeChars false raw).dropWhile isNameSeparator)).isEmpty then "tool".toList
        else trimEndMatches isNameSeparator
          ((sanitizeChars false raw).dropWhile isNameSeparator)) → isNameLetter letter = true := by
    intro raw member
    split at member
    next => exact isNameLetter_tool member
    next =>
      have kept := (List.dropWhile_sublist isNameSeparator).mem (mem_trimEndMatches member)
      exact isNameLetter_sanitizeChars kept
  exact cleaned _ member

variable {digest : List UInt8 → Vector UInt8 32}

theorem generatedForm_nameCandidate (identity : ToolIdentity) {suffixLen : Nat}
    (within : suffixLen ≤ 56) :
    GeneratedForm (nameCandidate (.ofDigest digest) identity suffixLen) := by
  unfold nameCandidate
  generalize isSuffix : ((Sha256.ofDigest digest).hex (identityBytes identity)).take suffixLen =
    suffix
  have digits : suffix.length ≤ 56 := by
    rw [← isSuffix]
    exact (List.length_take_le _ _).trans within
  have suffixLetters : ∀ letter ∈ suffix, isNameLetter letter = true := by
    intro letter member
    rw [← isSuffix] at member
    exact isNameLetter_hexText (List.mem_of_mem_take member)
  dsimp only
  generalize isMiddle : (if 64 - (4 + suffix.length) < (sanitizeMiddle identity).length then
      if (trimEndMatches isNameSeparator
          ((sanitizeMiddle identity).take (64 - (4 + suffix.length)))).isEmpty then "tool".toList
      else trimEndMatches isNameSeparator
        ((sanitizeMiddle identity).take (64 - (4 + suffix.length)))
    else sanitizeMiddle identity) = middle
  have fits : middle.length ≤ 64 - (4 + suffix.length) := by
    rw [← isMiddle]
    split
    next =>
      split
      next =>
        have four : "tool".toList.length = 4 := rfl
        omega
      next =>
        exact (length_trimEndMatches _ _).trans (List.length_take_le _ _)
    next short => exact not_lt.mp short
  have middleLetters : ∀ letter ∈ middle, isNameLetter letter = true := by
    intro letter member
    rw [← isMiddle] at member
    split at member
    next =>
      split at member
      next => exact isNameLetter_tool member
      next =>
        exact isNameLetter_sanitizeMiddle (List.mem_of_mem_take (mem_trimEndMatches member))
    next => exact isNameLetter_sanitizeMiddle member
  refine ⟨?_, ?_, ?_⟩
  · have three : "gw_".toList.length = 3 := rfl
    simp only [String.toList_ofList, List.length_append, three, List.length_singleton]
    omega
  · simp only [String.toList_ofList, List.append_assoc]
    exact List.prefix_append _ _
  · intro letter member
    simp only [String.toList_ofList, List.mem_append, List.mem_singleton] at member
    rcases member with ((mark | held) | rfl) | digit
    · have all : "gw_".toList.all isNameLetter = true := by decide
      exact List.all_eq_true.1 all letter mark
    · exact middleLetters letter held
    · decide
    · exact suffixLetters letter digit

section Search

variable (sha256 : Sha256) (identity : ToolIdentity) (occupied : List String)

inductive LoopReturns : Nat → String → Prop
  | exit {suffixLen : Nat}
      (done : nameCandidate sha256 identity suffixLen ∉ occupied ∨ 56 ≤ suffixLen) :
      LoopReturns suffixLen (nameCandidate sha256 identity suffixLen)
  | again {suffixLen : Nat} {name : String}
      (taken : nameCandidate sha256 identity suffixLen ∈ occupied) (longer : suffixLen < 56)
      (rest : LoopReturns (min (suffixLen + 4) 56) name) : LoopReturns suffixLen name

theorem loopReturns_from {steps suffixLen : Nat} (enough : 56 ≤ suffixLen + 4 * steps) :
    LoopReturns sha256 identity occupied suffixLen
      (generatedNameFrom sha256 identity occupied steps suffixLen) := by
  induction steps generalizing suffixLen with
  | zero => exact .exit (Or.inr (by omega))
  | succ steps ih =>
    rw [generatedNameFrom]
    split
    next done => exact .exit (by simpa using done)
    next busy =>
      simp only [Bool.or_eq_true, decide_eq_true_eq, not_or, not_not, not_le] at busy
      exact .again busy.1 busy.2 (ih (by omega))

theorem loopReturns_generatedName (digestLen : Nat) :
    LoopReturns sha256 identity occupied (min (max digestLen 12) 56)
      (generatedName sha256 identity digestLen occupied) :=
  loopReturns_from sha256 identity occupied (by omega)

theorem generatedName_candidate (digestLen : Nat) : ∃ suffixLen ≤ 56,
    generatedName sha256 identity digestLen occupied = nameCandidate sha256 identity suffixLen := by
  obtain ⟨digits, candidate⟩ := @generatedNameFrom_candidate sha256 identity occupied 11
    (min (max digestLen 12) 56)
  refine ⟨_, ?_, candidate⟩
  split <;> omega

variable {sha256 identity occupied}

theorem assigned_own_or_candidate {name : String}
    (assigned : assignedUpstreamName sha256 identity occupied = .ok name) :
    (identity.kind ≠ .namespaceMember ∧ name = identity.name) ∨
      ∃ suffixLen ≤ 56, name = nameCandidate sha256 identity suffixLen := by
  unfold assignedUpstreamName at assigned
  split at assigned
  next own =>
    cases assigned
    refine Or.inl ⟨fun member => ?_, rfl⟩
    simp [preservesOriginal, member] at own
  next =>
    split at assigned
    next found =>
      cases assigned
      obtain ⟨digestLen, -, rfl⟩ := List.mem_map.mp (List.mem_of_find?_eq_some found)
      exact Or.inr (generatedName_candidate sha256 identity occupied digestLen)
    next => cases assigned

theorem candidates_taken_of_error {failure : ProtocolError}
    (failed : assignedUpstreamName sha256 identity occupied = .error failure) :
    ∀ suffixLen ∈ suffixLengths, nameCandidate sha256 identity suffixLen ∈ occupied := by
  unfold assignedUpstreamName at failed
  split at failed
  next => cases failed
  next =>
    split at failed
    next => cases failed
    next missing =>
      have taken : generatedName sha256 identity 12 occupied ∈ occupied := by
        have all := List.find?_eq_none.mp missing (generatedName sha256 identity 12 occupied)
          (List.mem_map_of_mem (by decide))
        simpa using all
      intro suffixLen tried
      have digits : suffixLen = min (12 + 4 * ((suffixLen - 12) / 4)) 56 := by
        simp only [suffixLengths, List.mem_cons, List.not_mem_nil, or_false] at tried
        omega
      rw [digits]
      exact nameCandidate_occupied (by omega) (by omega) taken _

end Search

section Assignment

variable {sha256 : Sha256} {declared : List ToolIdentity} {registry : ToolAdapterRegistry}

theorem canonicalOrder_congr {first second : List ToolIdentity}
    (same : ∀ tool, tool ∈ first ↔ tool ∈ second) : canonicalOrder first = canonicalOrder second := by
  have perm : (canonicalOrder first).Perm (canonicalOrder second) := by
    rw [List.perm_ext_iff_of_nodup (canonicalOrder_nodup first) (canonicalOrder_nodup second)]
    intro tool
    rw [mem_canonicalOrder, mem_canonicalOrder, same]
  exact perm.eq_of_pairwise' (canonicalOrder_sorted first) (canonicalOrder_sorted second)

theorem assignNames_error {identities : List ToolIdentity} {mappings : List ToolMapping}
    {failure : ProtocolError}
    (failed : assignNames sha256 identities mappings = .error failure) :
    ∃ before tool after named, identities = before ++ tool :: after ∧
      assignNames sha256 before mappings = .ok named ∧
      assignedUpstreamName sha256 tool (named.map (·.upstreamName)) = .error failure := by
  induction identities generalizing mappings with
  | nil => cases failed
  | cons identity rest ih =>
    rw [assignNames] at failed
    split at failed
    next known =>
      cases failed
      exact ⟨[], identity, rest, mappings, rfl, rfl, known⟩
    next name known =>
      obtain ⟨before, tool, after, named, split, assigned, refused⟩ := ih failed
      refine ⟨identity :: before, tool, after, named, by rw [split, List.cons_append], ?_, refused⟩
      rw [assignNames, known]
      exact assigned

structure NamesOneToOne (declared : List ToolIdentity) (registry : ToolAdapterRegistry) : Prop where
  distinct : (registry.mappings.map (·.upstreamName)).Nodup
  inverse : ∀ tool ∈ declared, ∃ name,
    registry.upstreamName tool = some name ∧ registry.identity name = some tool
  functions : ∀ tool ∈ declared, tool.kind = .function → tool.group = none →
    registry.upstreamName tool = some tool.name
  formed : ∀ mapping ∈ registry.mappings,
    (mapping.identity.kind ≠ .namespaceMember ∧ mapping.upstreamName = mapping.identity.name) ∨
      GeneratedForm mapping.upstreamName

open ToolAdapterRegistry in
theorem namesOneToOne_of_built
    (built : fromIdentities (.ofDigest digest) declared = .ok registry) :
    NamesOneToOne declared registry := by
  have assigned := mappings_of_fromIdentities built
  refine ⟨assignNames_nodup (by simp) assigned, fun tool member => ?_,
    fun tool member kind plain => ?_, fun mapping member => ?_⟩
  · obtain ⟨name, named⟩ := (declared_iff_named built).1 member
    exact ⟨name, named, (identity_iff_upstreamName built).2 named⟩
  · obtain ⟨name, named⟩ := (declared_iff_named built).1 member
    rw [named, upstreamName_plain built kind plain named]
  · have named := (upstreamName_eq_some built).2 member
    rcases assigned_own_or_candidate (assigned_of_upstreamName built named) with
      own | ⟨suffixLen, within, candidate⟩
    · exact Or.inl own
    · right
      rw [candidate]
      exact generatedForm_nameCandidate _ within

open ToolAdapterRegistry in
/-- The names of a tool list are one to one whatever the hash is, depend on the set of its tools
only, and are found by a loop that ends; there are none only when all candidates of a tool are
taken by the tools before it. -/
theorem names_one_to_one (digest : List UInt8 → Vector UInt8 32) (declared : List ToolIdentity) :
    (∀ registry, fromIdentities (.ofDigest digest) declared = .ok registry →
      NamesOneToOne declared registry) ∧
    (∀ other : List ToolIdentity, (∀ tool, tool ∈ other ↔ tool ∈ declared) →
      fromIdentities (.ofDigest digest) other = fromIdentities (.ofDigest digest) declared) ∧
    (∀ identity digestLen occupied, LoopReturns (.ofDigest digest) identity occupied
      (min (max digestLen 12) 56) (generatedName (.ofDigest digest) identity digestLen occupied)) ∧
    (∀ failure, fromIdentities (.ofDigest digest) declared = .error failure →
      ∃ tool ∈ declared, ∀ suffixLen ∈ suffixLengths,
        nameCandidate (.ofDigest digest) tool suffixLen ∈
          namesBefore (.ofDigest digest) declared tool) := by
  refine ⟨fun registry => namesOneToOne_of_built, fun other same => ?_,
    fun identity digestLen occupied => loopReturns_generatedName _ _ _ _, fun failure failed => ?_⟩
  · rw [fromIdentities, fromIdentities, canonicalOrder_congr same]
  · unfold fromIdentities at failed
    cases assigned : assignNames (.ofDigest digest) (canonicalOrder declared) [] with
    | ok mappings =>
      rw [assigned] at failed
      cases failed
    | error refused =>
      obtain ⟨before, tool, after, named, split, first, known⟩ := assignNames_error assigned
      have distinct := canonicalOrder_nodup declared
      rw [split] at distinct
      have absent : tool ∉ before := fun earlier =>
        (List.nodup_append.1 distinct).2.2 tool earlier tool List.mem_cons_self rfl
      have taken : (canonicalOrder declared).takeWhile (· ≠ tool) = before := by
        rw [split, List.takeWhile_append_of_pos]
        · simp
        · intro other earlier
          have differs : other ≠ tool := fun same => absent (same ▸ earlier)
          simpa using differs
      have member : tool ∈ declared := by
        rw [← mem_canonicalOrder, split]
        exact List.mem_append_right _ List.mem_cons_self
      refine ⟨tool, member, ?_⟩
      rw [namesBefore, taken, first]
      exact candidates_taken_of_error known

end Assignment

def namesakeFunctions : List ToolIdentity :=
  [⟨.function, some "a", "x"⟩, ⟨.function, some "b", "x"⟩]

/-- A function with a namespace may lose its name to one of another namespace. -/
theorem namesake_function_renamed :
    (ToolAdapterRegistry.fromIdentities (.ofDigest fun _ => Vector.replicate 32 0)
        namesakeFunctions).toOption.bind (·.upstreamName ⟨.function, some "b", "x"⟩) =
      some "gw_b__x_000000000000" := by
  decide +kernel

end ChatGateway
