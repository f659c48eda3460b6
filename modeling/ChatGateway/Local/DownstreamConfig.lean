import ChatGateway.Models.Identity

set_option autoImplicit false

/-!
# Downstream keys

The limits of a downstream key, the group that a model is counted in, and the ledger that its
costs are booked on.
-/

namespace ChatGateway

def saturatingAdd64 (left right : Nat) : Nat :=
  min (left + right) (2 ^ 64 - 1)

def saturatingMul64 (left right : Nat) : Nat :=
  min (left * right) (2 ^ 64 - 1)

def afterFirst (part : Text) : Text → Option Text
  | [] => if part = [] then some [] else none
  | letter :: rest =>
    if part.isPrefixOf (letter :: rest) then some ((letter :: rest).drop part.length)
    else afterFirst part rest

def afterParts (parts : List Text) (text : Text) : Option Text :=
  parts.foldlM (fun remainder part => if part = [] then some remainder else afterFirst part remainder)
    text

def globMatchStar (pattern text : Text) : Bool :=
  match pattern.splitOn '*' with
  | [] => false
  | [_] => pattern = text
  | first :: second :: rest =>
    if first.isPrefixOf text then
      match afterParts (second :: rest).dropLast (text.drop first.length) with
      | some remainder => ((second :: rest).getLast (by simp)).isSuffixOf remainder
      | none => false
    else false

structure ModelConcurrencyGroup where
  name : String
  patterns : List Text
  maxConcurrency : Nat
deriving DecidableEq

structure DownstreamConfig where
  id : String
  rateLimitEnabled : Bool := true
  perMinuteLimit : Nat := 60
  maxConcurrency : Nat := 10
  inputTokenPricePerMillionCents : Option Nat := none
  outputTokenPricePerMillionCents : Option Nat := none
  requestQuotaWindowHours : Option Nat := none
  requestQuotaRequests : Option Nat := none
  billingMode : String := "request"
  modelConcurrencyGroups : List ModelConcurrencyGroup := []
deriving DecidableEq

inductive ModelConcurrencyGroupError where
  | emptyName
  | duplicateName (name : String)
  | zeroConcurrency (name : String)
  | emptyMatchList (name : String)
  | emptyMatchPattern (name : String)
deriving DecidableEq

def ModelConcurrencyGroup.validate (group : ModelConcurrencyGroup) (seen : Finset Text) :
    Except ModelConcurrencyGroupError (Finset Text) :=
  if Text.trim group.name.toList = [] then .error .emptyName
  else if Text.trim group.name.toList ∈ seen then .error (.duplicateName group.name)
  else if group.maxConcurrency = 0 then .error (.zeroConcurrency group.name)
  else if group.patterns = [] then .error (.emptyMatchList group.name)
  else if group.patterns.any fun pattern => Text.trim pattern = [] then
    .error (.emptyMatchPattern group.name)
  else .ok (insert (Text.trim group.name.toList) seen)

namespace DownstreamConfig

def validateModelConcurrencyGroups (downstream : DownstreamConfig) :
    Except ModelConcurrencyGroupError Unit :=
  (downstream.modelConcurrencyGroups.foldlM
    (fun seen (group : ModelConcurrencyGroup) => group.validate seen) ∅).map fun _ => ()

def tokenBillingMode (downstream : DownstreamConfig) : Bool :=
  downstream.billingMode = "token"

def hasCostPricing (downstream : DownstreamConfig) : Bool :=
  downstream.tokenBillingMode &&
    (downstream.inputTokenPricePerMillionCents.isSome ||
      downstream.outputTokenPricePerMillionCents.isSome)

def costForTokens (downstream : DownstreamConfig) (inputTokens outputTokens : Nat) : Nat :=
  let inputCost := (downstream.inputTokenPricePerMillionCents.map fun price =>
    inputTokens * price / 1000000).getD 0
  let outputCost := (downstream.outputTokenPricePerMillionCents.map fun price =>
    outputTokens * price / 1000000).getD 0
  (inputCost + outputCost) % 2 ^ 64

def concurrencyGroupForModel (downstream : DownstreamConfig) (model : Text)
    (caseInsensitive : Bool) : Option ModelConcurrencyGroup :=
  if downstream.modelConcurrencyGroups = [] ∨ Text.trim model = [] then none
  else
    downstream.modelConcurrencyGroups.find? fun group =>
      group.patterns.any fun pattern =>
        globMatchStar (modelIdentityKeyWith pattern caseInsensitive)
          (modelIdentityKeyWith model caseInsensitive)

theorem ModelConcurrencyGroup.validate_ok {group : ModelConcurrencyGroup} {seen next : Finset Text}
    (valid : group.validate seen = .ok next) :
    group.name ≠ "" ∧ Text.trim group.name.toList ∉ seen ∧
      next = insert (Text.trim group.name.toList) seen := by
  rw [ModelConcurrencyGroup.validate] at valid
  split_ifs at valid with blank known
  refine ⟨?_, known, (Except.ok.inj valid).symm⟩
  intro empty
  exact blank (by simp [empty, Text.trim])

-- The groups behind those already seen have names of their own, apart from the seen ones.
theorem names_of_validated {groups : List ModelConcurrencyGroup} {seen last : Finset Text}
    (valid : groups.foldlM (fun seen group => group.validate seen) seen =
      (.ok last : Except ModelConcurrencyGroupError (Finset Text))) :
    (∀ group ∈ groups, group.name ≠ "" ∧ Text.trim group.name.toList ∉ seen) ∧
      (groups.map ModelConcurrencyGroup.name).Nodup := by
  induction groups generalizing seen with
  | nil => simp
  | cons group rest ih =>
    rw [List.foldlM_cons] at valid
    obtain ⟨next, head, tail⟩ := Except.bind_eq_ok.1 valid
    obtain ⟨named, apart, rfl⟩ := ModelConcurrencyGroup.validate_ok head
    obtain ⟨later, distinct⟩ := ih tail
    refine ⟨?_, ?_⟩
    · intro other known
      rcases List.mem_cons.1 known with rfl | behind
      · exact ⟨named, apart⟩
      · exact ⟨(later other behind).1, fun before =>
          (later other behind).2 (Finset.mem_insert_of_mem before)⟩
    · rw [List.map_cons, List.nodup_cons]
      refine ⟨?_, distinct⟩
      intro repeated
      obtain ⟨other, behind, same⟩ := List.mem_map.1 repeated
      exact (later other behind).2 (by simp [same])

theorem group_of_name {downstream : DownstreamConfig}
    (valid : downstream.validateModelConcurrencyGroups = .ok ()) {group other : ModelConcurrencyGroup}
    (known : group ∈ downstream.modelConcurrencyGroups)
    (also : other ∈ downstream.modelConcurrencyGroups) (same : other.name = group.name) :
    group.name ≠ "" ∧ other = group := by
  obtain ⟨last, folded, -⟩ := Except.map_eq_ok.1 valid
  obtain ⟨named, distinct⟩ := names_of_validated folded
  exact ⟨(named group known).1, List.inj_on_of_nodup_map distinct also known same⟩

theorem concurrencyGroupForModel_mem {downstream : DownstreamConfig} {model : Text}
    {caseInsensitive : Bool} {group : ModelConcurrencyGroup}
    (found : downstream.concurrencyGroupForModel model caseInsensitive = some group) :
    group ∈ downstream.modelConcurrencyGroups := by
  rw [concurrencyGroupForModel] at found
  by_cases absent : downstream.modelConcurrencyGroups = [] ∨ Text.trim model = []
  · rw [if_pos absent] at found
    cases found
  · rw [if_neg absent] at found
    exact List.mem_of_find?_eq_some found

end DownstreamConfig

structure CostScope where
  scopeId : String
  dailyLimitCents : Option Nat
deriving DecidableEq

def CostScope.isLimited (scope : CostScope) : Bool :=
  scope.dailyLimitCents.any (0 < ·)

def resolveCostScope (downstreamId : String) (owners : Table String String)
    (limits : Table String Nat) : CostScope :=
  let scopeId := (owners.lookup downstreamId).getD downstreamId
  { scopeId, dailyLimitCents := (limits.lookup scopeId).filter (0 < ·) }

inductive DownstreamAdmissionRejection where
  | runtimeCoordinationUnavailable
  | concurrencyLimitExceeded (retryAfterSeconds limit : Nat) (group : Option String)
  | perMinuteLimitExceeded (retryAfterSeconds limit used : Nat)
  | requestQuotaExceeded (retryAfterSeconds limit used windowSeconds : Nat)
  | dailyCostQuotaExceeded (retryAfterSeconds limit used : Nat)
deriving DecidableEq

end ChatGateway
