import ChatGateway.Capabilities.Precedence
import ChatGateway.Shared.Grouping
import Mathlib.Data.Finset.Lattice.Lemmas

set_option autoImplicit false

/-!
# Outcomes of probes

What a probe of some capabilities of a route leaves in the profile of the route.
-/

namespace ChatGateway

inductive ProbeProfileOutcome where
  | accepted
  | rejected
  | operationalFailure
  | deferred
deriving DecidableEq, Repr

structure ProbedDialectProfile extends UpstreamDialectProfile where
  lastAttemptAt : Option Nat := none
  lastSuccessAt : Option Nat := none
  lastOperationalFailure : Option String := none
  lastProbeOutcome : Option ProbeProfileOutcome := none
  probeRetryCount : Nat := 0
  nextProbeAt : Option Nat := none
  evidenceCodes : Finset String := ∅
  httpStatus : Option Nat := none
  eventTypes : Finset String := ∅

structure ConclusiveOutcome where
  capabilities : OrderedMap Capability EvidenceState
  tokenLimitField : Option TokenLimitField
  reasoningCarrier : Option ReasoningCarrier
  reasoningControls : OrderedMap String (List Json)
  correctionRules : List DialectCorrectionRule
  extensionEvidence : OrderedMap String EvidenceState
  evidenceCodes : Finset String
  eventTypes : Finset String
  httpStatus : Nat
  attemptedAt : Nat

inductive ProbeOutcome where
  | conclusive (outcome : ConclusiveOutcome)
  | operationalFailure (code : String) (httpStatus : Option Nat) (attemptedAt : Nat)

def dialectStateOf (capabilities : OrderedMap Capability EvidenceState) : DialectProfileState :=
  let supported := capabilities.values.countP (· = .supported)
  let rejected := capabilities.values.countP (· = .rejected)
  if supported = 0 ∧ 0 < rejected then .unsupported
  else if rejected = 0 then .verified
  else .partial_

def mergeObserved (known observed : OrderedMap Capability EvidenceState) :
    OrderedMap Capability EvidenceState :=
  observed.entries.foldl
    (fun merged entry =>
      if entry.2 ≠ .unobserved then merged.put entry.1 entry.2 else merged)
    known

def addValue (slot : List Json) (value : Json) : List Json :=
  if value ∈ slot then slot else slot ++ [value]

def addValues (slot values : List Json) : List Json :=
  values.foldl addValue slot

def applyProbeOutcomePartial (profile : ProbedDialectProfile) (outcome : ProbeOutcome) :
    ProbedDialectProfile :=
  match outcome with
  | .operationalFailure _ _ _ => profile
  | .conclusive outcome =>
    let capabilities := mergeObserved profile.capabilities outcome.capabilities
    { profile with
      capabilities := capabilities
      reasoningControls :=
        OrderedMap.merge [] addValues profile.reasoningControls outcome.reasoningControls
      reasoningCarrier := profile.reasoningCarrier.or outcome.reasoningCarrier
      tokenLimitField := profile.tokenLimitField.or outcome.tokenLimitField
      correctionRules :=
        if outcome.correctionRules.isEmpty then profile.correctionRules
        else outcome.correctionRules
      extensionEvidence :=
        if outcome.extensionEvidence.isEmpty then profile.extensionEvidence
        else outcome.extensionEvidence
      evidenceCodes := profile.evidenceCodes ∪ outcome.evidenceCodes
      eventTypes := profile.eventTypes ∪ outcome.eventTypes
      httpStatus :=
        if profile.lastOperationalFailure.isNone then some outcome.httpStatus
        else profile.httpStatus
      lastAttemptAt := some outcome.attemptedAt
      lastProbeOutcome := some .deferred
      nextProbeAt := some (min (outcome.attemptedAt + 1) (2 ^ 64 - 1))
      state := dialectStateOf capabilities }

def applyPartials (profile : ProbedDialectProfile) (outcomes : List ConclusiveOutcome) :
    ProbedDialectProfile :=
  outcomes.foldl (fun profile outcome => applyProbeOutcomePartial profile (.conclusive outcome))
    profile

theorem mergeObserved_eq (known observed : OrderedMap Capability EvidenceState) :
    mergeObserved known observed =
      OrderedMap.merge .unobserved (fun _ state => state) known (observedOnly observed) := by
  rw [mergeObserved, OrderedMap.merge, observedOnly, OrderedMap.filter, List.foldl_filter]
  simp only [OrderedMap.update, decide_eq_true_eq]

theorem observed?_mergeObserved (known observed : OrderedMap Capability EvidenceState)
    (capability : Capability) :
    observed? (mergeObserved known observed) capability =
      (observed? observed capability).or (observed? known capability) := by
  rw [mergeObserved_eq, observed?, OrderedMap.find?_merge, observedOnly, OrderedMap.find?_filter]
  rw [observed?, observed?]
  cases observed.find? capability with
  | none => rfl
  | some state => cases state <;> rfl

theorem mergeObserved_self (known observed : OrderedMap Capability EvidenceState) :
    mergeObserved (mergeObserved known observed) observed = mergeObserved known observed := by
  simp only [mergeObserved_eq]
  exact OrderedMap.merge_self (by intros; rfl) known (observedOnly observed)

theorem mergeObserved_comm {first second : OrderedMap Capability EvidenceState}
    (apart : ∀ key, observed? first key = none ∨ observed? second key = none)
    (known : OrderedMap Capability EvidenceState) :
    mergeObserved (mergeObserved known first) second =
      mergeObserved (mergeObserved known second) first := by
  simp only [mergeObserved_eq]
  apply OrderedMap.merge_comm
  intro key
  rw [observedOnly, observedOnly, OrderedMap.find?_filter, OrderedMap.find?_filter]
  exact apart key

theorem mem_addValues {slot values : List Json} {value : Json} :
    value ∈ addValues slot values ↔ value ∈ slot ∨ value ∈ values := by
  induction values generalizing slot with
  | nil => simp [addValues]
  | cons head rest ih =>
    have step : value ∈ addValue slot head ↔ value ∈ slot ∨ value = head := by
      rw [addValue]
      by_cases held : head ∈ slot
      · rw [if_pos held]
        constructor
        · exact Or.inl
        · rintro (old | rfl)
          · exact old
          · exact held
      · rw [if_neg held, List.mem_append, List.mem_singleton]
    change value ∈ addValues (addValue slot head) rest ↔ _
    rw [ih, step, List.mem_cons, or_assoc]

theorem addValues_of_mem {slot values : List Json} (held : ∀ value ∈ values, value ∈ slot) :
    addValues slot values = slot := by
  induction values with
  | nil => rfl
  | cons head rest ih =>
    rw [List.forall_mem_cons] at held
    change addValues (addValue slot head) rest = slot
    rw [addValue, if_pos held.1]
    exact ih held.2

theorem addValues_self (slot values : List Json) :
    addValues (addValues slot values) values = addValues slot values :=
  addValues_of_mem fun _ known => mem_addValues.2 (.inr known)

structure StillKnown (before after : ProbedDialectProfile) (later : List ConclusiveOutcome) :
    Prop where
  capabilities : ∀ capability state, observed? before.capabilities capability = some state →
    (∀ outcome ∈ later, ∀ other, observed? outcome.capabilities capability = some other →
      other = state) →
    observed? after.capabilities capability = some state
  extensions : ∀ id state, observed? before.extensionEvidence id = some state →
    (∀ outcome ∈ later, ∀ other, observed? outcome.extensionEvidence id = some other →
      other = state) →
    observed? after.extensionEvidence id = some state
  controls : ∀ field values, before.reasoningControls.find? field = some values →
    ∃ more, after.reasoningControls.find? field = some more ∧ ∀ value ∈ values, value ∈ more
  carrier : ∀ carrier, before.reasoningCarrier = some carrier →
    after.reasoningCarrier = some carrier
  tokenLimit : ∀ field, before.tokenLimitField = some field → after.tokenLimitField = some field

def CoversExtensions (profile : ProbedDialectProfile) (outcome : ConclusiveOutcome) : Prop :=
  outcome.extensionEvidence.isEmpty = true ∨
    ∀ id, (observed? profile.extensionEvidence id).isSome →
      (observed? outcome.extensionEvidence id).isSome

theorem applyPartials_append (profile : ProbedDialectProfile)
    (earlier later : List ConclusiveOutcome) :
    applyPartials profile (earlier ++ later) = applyPartials (applyPartials profile earlier) later :=
  List.foldl_append

theorem StillKnown.refl (profile : ProbedDialectProfile) : StillKnown profile profile [] where
  capabilities _ _ known _ := known
  extensions _ _ known _ := known
  controls _ values known := ⟨values, known, fun _ held => held⟩
  carrier _ known := known
  tokenLimit _ known := known

theorem StillKnown.trans {first second third : ProbedDialectProfile}
    {outcome : ConclusiveOutcome} {later : List ConclusiveOutcome}
    (step : StillKnown first second [outcome]) (run : StillKnown second third later) :
    StillKnown first third (outcome :: later) where
  capabilities capability state known unchanged := by
    rw [List.forall_mem_cons] at unchanged
    exact run.capabilities _ _ (step.capabilities _ _ known (by simpa using unchanged.1)) unchanged.2
  extensions id state known unchanged := by
    rw [List.forall_mem_cons] at unchanged
    exact run.extensions _ _ (step.extensions _ _ known (by simpa using unchanged.1)) unchanged.2
  controls field values known := by
    obtain ⟨some, found, kept⟩ := step.controls field values known
    obtain ⟨more, later, still⟩ := run.controls field some found
    exact ⟨more, later, fun value held => still value (kept value held)⟩
  carrier carrier known := run.carrier _ (step.carrier _ known)
  tokenLimit field known := run.tokenLimit _ (step.tokenLimit _ known)

theorem stillKnown_step {profile : ProbedDialectProfile} {outcome : ConclusiveOutcome}
    (covers : CoversExtensions profile outcome) :
    StillKnown profile (applyPartials profile [outcome]) [outcome] where
  capabilities capability state known unchanged := by
    have observed := unchanged outcome List.mem_cons_self
    change observed? (mergeObserved profile.capabilities outcome.capabilities) capability = _
    rw [observed?_mergeObserved]
    cases given : observed? outcome.capabilities capability with
    | none => exact known
    | some other => rw [observed other given, Option.some_or]
  extensions id state known unchanged := by
    have observed := unchanged outcome List.mem_cons_self
    change observed? (if outcome.extensionEvidence.isEmpty then profile.extensionEvidence
      else outcome.extensionEvidence) id = _
    by_cases empty : outcome.extensionEvidence.isEmpty = true
    · rw [if_pos empty, known]
    · -- The evidence is replaced as a whole, so that the outcome has to carry what is known.
      have carried := covers.resolve_left empty id (by rw [known]; rfl)
      obtain ⟨other, given⟩ := Option.isSome_iff_exists.1 carried
      rw [if_neg empty, given, observed other given]
  controls field values known := by
    change ∃ more, (OrderedMap.merge [] addValues profile.reasoningControls
      outcome.reasoningControls).find? field = some more ∧ _
    rw [OrderedMap.find?_merge, known]
    cases outcome.reasoningControls.find? field with
    | none => exact ⟨values, rfl, fun _ held => held⟩
    | some added => exact ⟨_, rfl, fun value held => mem_addValues.2 (.inl held)⟩
  carrier carrier known := by
    change profile.reasoningCarrier.or _ = _
    rw [known, Option.some_or]
  tokenLimit field known := by
    change profile.tokenLimitField.or _ = _
    rw [known, Option.some_or]

theorem stillKnown_run (outcomes : List ConclusiveOutcome) (profile : ProbedDialectProfile)
    (covers : ∀ before outcome after, outcomes = before ++ outcome :: after →
      CoversExtensions (applyPartials profile before) outcome) :
    StillKnown profile (applyPartials profile outcomes) outcomes := by
  induction outcomes generalizing profile with
  | nil => exact StillKnown.refl profile
  | cons outcome rest ih =>
    have first := stillKnown_step (covers [] outcome rest rfl)
    refine first.trans (ih (applyPartials profile [outcome]) ?_)
    intro before next after split
    exact covers (outcome :: before) next after (by rw [split, List.cons_append])

-- Replacing what is known of an extension that the outcome does not observe loses it.
theorem covers_of_stillKnown {profile : ProbedDialectProfile} {outcome : ConclusiveOutcome}
    (kept : StillKnown profile (applyPartials profile [outcome]) [outcome]) :
    CoversExtensions profile outcome := by
  by_cases empty : outcome.extensionEvidence.isEmpty = true
  · exact .inl empty
  · refine .inr fun id known => ?_
    by_contra missing
    obtain ⟨state, before⟩ := Option.isSome_iff_exists.1 known
    have absent : observed? outcome.extensionEvidence id = none := by simpa using missing
    have after := kept.extensions id state before (by
      intro _ member other given
      obtain rfl := List.mem_singleton.1 member
      rw [absent] at given
      cases given)
    change observed? (if outcome.extensionEvidence.isEmpty then profile.extensionEvidence
      else outcome.extensionEvidence) id = _ at after
    rw [if_neg empty, absent] at after
    cases after

theorem applyPartial_twice (profile : ProbedDialectProfile) (outcome : ConclusiveOutcome) :
    applyPartials profile [outcome, outcome] = applyPartials profile [outcome] := by
  have capabilities := mergeObserved_self profile.capabilities outcome.capabilities
  have controls : OrderedMap.merge [] addValues (OrderedMap.merge [] addValues
      profile.reasoningControls outcome.reasoningControls) outcome.reasoningControls =
        OrderedMap.merge [] addValues profile.reasoningControls outcome.reasoningControls :=
    OrderedMap.merge_self addValues_self _ _
  have carrier : (profile.reasoningCarrier.or outcome.reasoningCarrier).or
      outcome.reasoningCarrier = profile.reasoningCarrier.or outcome.reasoningCarrier := by
    cases profile.reasoningCarrier <;> simp
  have tokenLimit : (profile.tokenLimitField.or outcome.tokenLimitField).or
      outcome.tokenLimitField = profile.tokenLimitField.or outcome.tokenLimitField := by
    cases profile.tokenLimitField <;> simp
  simp only [applyPartials, List.foldl_cons, List.foldl_nil, applyProbeOutcomePartial,
    capabilities, controls, carrier, tokenLimit, Finset.union_assoc, Finset.union_self]
  congr 1 <;> split <;> simp_all

structure ApartOutcomes (first second : ConclusiveOutcome) : Prop where
  capabilities : ∀ capability, observed? first.capabilities capability = none ∨
    observed? second.capabilities capability = none
  extensions : ∀ id, observed? first.extensionEvidence id = none ∨
    observed? second.extensionEvidence id = none
  controls : ∀ field, first.reasoningControls.find? field = none ∨
    second.reasoningControls.find? field = none
  rules : first.correctionRules = [] ∧ second.correctionRules = []
  carriers : first.reasoningCarrier = none ∧ second.reasoningCarrier = none
  tokenLimits : first.tokenLimitField = none ∧ second.tokenLimitField = none

structure SameEvidence (first second : ProbedDialectProfile) : Prop where
  capabilities : first.capabilities = second.capabilities
  extensions : first.extensionEvidence = second.extensionEvidence
  controls : first.reasoningControls = second.reasoningControls
  rules : first.correctionRules = second.correctionRules
  carrier : first.reasoningCarrier = second.reasoningCarrier
  tokenLimit : first.tokenLimitField = second.tokenLimitField
  codes : first.evidenceCodes = second.evidenceCodes
  events : first.eventTypes = second.eventTypes
  state : first.state = second.state

theorem sameEvidence_iff (profile : ProbedDialectProfile) {first second : ConclusiveOutcome}
    (apart : ApartOutcomes first second) :
    SameEvidence (applyPartials profile [first, second]) (applyPartials profile [second, first]) ↔
      first.extensionEvidence.isEmpty = true ∨ second.extensionEvidence.isEmpty = true ∨
        first.extensionEvidence = second.extensionEvidence := by
  have extensions : (applyPartials profile [first, second]).extensionEvidence =
      (applyPartials profile [second, first]).extensionEvidence ↔
        first.extensionEvidence.isEmpty = true ∨ second.extensionEvidence.isEmpty = true ∨
          first.extensionEvidence = second.extensionEvidence := by
    simp only [applyPartials, List.foldl_cons, List.foldl_nil, applyProbeOutcomePartial]
    by_cases one : first.extensionEvidence.isEmpty = true
    · simp [one]
    · by_cases two : second.extensionEvidence.isEmpty = true
      · simp [two]
      · simp [one, two, eq_comm]
  have capabilities := mergeObserved_comm apart.capabilities profile.capabilities
  rw [← extensions]
  constructor
  · exact SameEvidence.extensions
  · intro same
    exact {
      capabilities := capabilities
      extensions := same
      controls := OrderedMap.merge_comm apart.controls _
      rules := by
        simp [applyPartials, applyProbeOutcomePartial, apart.rules.1, apart.rules.2]
      carrier := by
        simp [applyPartials, applyProbeOutcomePartial, apart.carriers.1, apart.carriers.2]
      tokenLimit := by
        simp [applyPartials, applyProbeOutcomePartial, apart.tokenLimits.1, apart.tokenLimits.2]
      codes := Finset.union_right_comm ..
      events := Finset.union_right_comm ..
      state := congrArg dialectStateOf capabilities }

/-- Partial outcomes only add evidence exactly when each that has evidence on extensions observes
all that are known. -/
theorem partial_probes_only_add (profile : ProbedDialectProfile)
    (outcomes : List ConclusiveOutcome) :
    ((∀ before during after, outcomes = before ++ during ++ after →
        StillKnown (applyPartials profile before) (applyPartials profile (before ++ during)) during) ↔
      ∀ before outcome after, outcomes = before ++ outcome :: after →
        CoversExtensions (applyPartials profile before) outcome) ∧
    (∀ outcome, applyPartials profile [outcome, outcome] = applyPartials profile [outcome]) ∧
    ∀ first second, ApartOutcomes first second →
      (SameEvidence (applyPartials profile [first, second])
          (applyPartials profile [second, first]) ↔
        first.extensionEvidence.isEmpty = true ∨ second.extensionEvidence.isEmpty = true ∨
          first.extensionEvidence = second.extensionEvidence) := by
  refine ⟨⟨?_, ?_⟩, applyPartial_twice profile, fun _ _ => sameEvidence_iff profile⟩
  · intro kept before outcome after split
    have step := kept before [outcome] after (by rw [split]; simp)
    rw [applyPartials_append] at step
    exact covers_of_stillKnown step
  · intro covers before during after split
    rw [applyPartials_append]
    refine stillKnown_run during (applyPartials profile before) ?_
    intro earlier outcome later parts
    rw [← applyPartials_append]
    exact covers (before ++ earlier) outcome (later ++ after) (by rw [split, parts]; simp)

def extensionOutcome (id : String) : ConclusiveOutcome where
  capabilities := {}
  tokenLimitField := none
  reasoningCarrier := none
  reasoningControls := {}
  correctionRules := []
  extensionEvidence := ({} : OrderedMap String EvidenceState).put id .supported
  evidenceCodes := ∅
  eventTypes := ∅
  httpStatus := 200
  attemptedAt := 0

/-- The second of two partial probes erases what the first found. -/
theorem later_extension_erases :
    ¬∀ (profile : ProbedDialectProfile) (outcomes : List ConclusiveOutcome),
      ∀ before during after, outcomes = before ++ during ++ after →
        StillKnown (applyPartials profile before) (applyPartials profile (before ++ during))
          during := by
  intro claimed
  have kept := claimed ⟨⟨⟨"u", "k", "m", .responses⟩, .unknown, {}, none, none, [], {}, {}⟩, none,
      none, none, none, 0, none, ∅, none, ∅⟩ [extensionOutcome "a", extensionOutcome "b"]
    [extensionOutcome "a"] [extensionOutcome "b"] [] rfl
  have known := kept.extensions "a" .supported (by decide +kernel) (by
    intro outcome member other given
    obtain rfl := List.mem_singleton.1 member
    revert other
    decide +kernel)
  revert known
  decide +kernel

end ChatGateway
