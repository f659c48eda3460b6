import ChatGateway.RouteHealth.Settled

set_option autoImplicit false

/-!
# Bounds on recorded failures

How long a recorded failure can cool a route and how far its step can go.
-/

namespace ChatGateway

section Backoff

variable (digest : List UInt8 → Nat)

theorem jitteredBackoff_le_maximum (base : Duration) (step : Nat) (maximum : Duration)
    (material : List UInt8) : jitteredBackoff digest base step maximum material ≤ maximum :=
  (Nat.min_le_left _ _).trans (Nat.min_le_right _ _)

theorem jitteredBackoff_pos {base maximum : Duration} (basePos : 2 ≤ base) (maxPos : 0 < maximum)
    (step : Nat) (material : List UInt8) :
    0 < jitteredBackoff digest base step maximum material := by
  have power : 0 < 2 ^ min (step - 1) 16 := Nat.two_pow_pos _
  have grown : base ≤ base * 2 ^ min (step - 1) 16 := Nat.le_mul_of_pos_right _ power
  unfold jitteredBackoff
  dsimp only
  generalize base * 2 ^ min (step - 1) 16 = nanos at grown
  generalize digest material % 41 = jitter
  have scaled : 100 ≤ min nanos (2 ^ 128 - 1) * (80 + jitter) := by
    have least : 2 ≤ min nanos (2 ^ 128 - 1) := le_min (basePos.trans grown) (by decide)
    calc 100 ≤ 2 * 80 := by decide
      _ ≤ min nanos (2 ^ 128 - 1) * (80 + jitter) :=
        Nat.mul_le_mul least (Nat.le_add_right _ _)
  have quotient : 0 < min (min nanos (2 ^ 128 - 1) * (80 + jitter)) (2 ^ 128 - 1) / 100 :=
    Nat.div_pos (le_min scaled (by decide)) (by decide)
  exact lt_min (lt_min quotient maxPos) (by decide)

end Backoff

structure RouteHealthTuning.Usable (tuning : RouteHealthTuning) : Prop where
  probed : tuning.concurrencyProbeDelays ≠ []
  delays : ∀ delay ∈ tuning.concurrencyProbeDelays, 0 < delay
  base : 2 ≤ tuning.transientRouteCooldownBase
  maximum : 0 < tuning.transientRouteCooldownMax
  steps : 1 ≤ tuning.transientRouteCooldownMaxStep

theorem normalizeConcurrencyProbeDelays_usable (values : List Nat) :
    normalizeConcurrencyProbeDelays values ≠ [] ∧
      ∀ delay ∈ normalizeConcurrencyProbeDelays values, 0 < delay := by
  unfold normalizeConcurrencyProbeDelays
  dsimp only
  split
  · decide
  next sound =>
    simp only [Bool.or_eq_true, not_or, List.isEmpty_iff, List.any_eq_true, not_exists] at sound
    obtain ⟨⟨filled, inRange⟩, -⟩ := sound
    refine ⟨by simpa using filled, fun delay member => ?_⟩
    obtain ⟨value, listed, rfl⟩ := List.mem_map.1 member
    have positive : value ≠ 0 := fun zero => inRange value ⟨listed, by simp [zero]⟩
    exact Nat.mul_pos (Nat.pos_of_ne_zero positive) (by decide)

theorem RouteHealthSettings.normalize_usable (settings : RouteHealthSettings) :
    settings.normalize.Usable := by
  obtain ⟨probed, delays⟩ :=
    normalizeConcurrencyProbeDelays_usable settings.concurrencyProbeDelaysMs
  have base : 1 ≤ max settings.transientRouteCooldownBaseSeconds 1 := le_max_right _ _
  refine ⟨probed, delays, ?_, ?_, le_min (le_max_right _ _) (by decide)⟩
  · exact (by decide : 2 ≤ 1 * 1_000_000_000).trans (Nat.mul_le_mul_right _ base)
  · exact Nat.mul_pos (base.trans (le_max_right _ _)) (by decide)

namespace RouteFailureReport

def isSharedHost (report : RouteFailureReport) : Bool :=
  report.sharedHostFailureDomain && isSharedHostDomainClass report.failureClass

def neverEscalates (report : RouteFailureReport) : Bool :=
  report.failureClass == .edgeProxyError || report.isSharedHost

def isFlagged (report : RouteFailureReport) : Bool :=
  report.repeatWithinRequest || report.soleCandidate

end RouteFailureReport

namespace HealthState

def recordedStep (state : HealthState) (tuning : RouteHealthTuning) (report : RouteFailureReport)
    (now : Instant) : Nat :=
  failureStep state report.failureClass now report.isFlagged tuning.transientRouteCooldownMaxStep
    report.isSharedHost

def goesOn (state : HealthState) (failureClass : RouteFailureClass) (now : Instant) : Bool :=
  !state.lastFailureAt.any (fun last => failureStreakReset < now - last) &&
    state.lastFailureClass == some failureClass

def keepsHighStep (state : HealthState) (tuning : RouteHealthTuning) (report : RouteFailureReport)
    (now : Instant) : Bool :=
  !report.neverEscalates && state.goesOn report.failureClass now && report.isFlagged &&
    tuning.transientRouteCooldownMaxStep < state.consecutiveFailures

variable (state : HealthState) (tuning : RouteHealthTuning) (report : RouteFailureReport)
  (now : Instant)

theorem recordedStep_eq :
    state.recordedStep tuning report now =
      if report.neverEscalates then 1
      else if state.goesOn report.failureClass now then
        if report.isFlagged then max state.consecutiveFailures 1
        else
          let escalated := max (saturatingSucc32 state.consecutiveFailures) 1
          if state.halfOpenGeneration.isSome && report.failureClass != .concurrencySaturated then
            min (min escalated routeHalfOpenFailureStepCap)
              (max tuning.transientRouteCooldownMaxStep 1)
          else if state.halfOpenGeneration.isSome then escalated
          else min escalated (max tuning.transientRouteCooldownMaxStep 1)
      else 1 := by
  unfold recordedStep failureStep
  dsimp only
  by_cases single : report.neverEscalates = true
  · rw [if_pos single, if_pos]
    simp only [RouteFailureReport.neverEscalates, RouteFailureReport.isSharedHost, Bool.or_eq_true,
      Bool.and_eq_true] at single ⊢
    exact single.imp_right fun shared => ⟨shared, shared.2⟩
  · rw [if_neg single, if_neg]
    · by_cases on : state.goesOn report.failureClass now = true
      · rw [if_pos on, if_neg]
        simpa [goesOn] using on
      · rw [if_neg on, if_pos]
        simp only [goesOn, Bool.and_eq_true, not_and_or] at on
        simpa using on
    · intro shared
      refine single ?_
      simp only [RouteFailureReport.neverEscalates, RouteFailureReport.isSharedHost,
        Bool.or_eq_true, Bool.and_eq_true] at shared ⊢
      exact shared.imp_right fun both => both.1

theorem recordedStep_pos : 1 ≤ state.recordedStep tuning report now := by
  rw [recordedStep_eq]
  dsimp only
  repeat' split
  all_goals first
    | exact Nat.le_refl 1
    | exact le_max_right _ _
    | exact le_min (le_min (le_max_right _ _) (by decide)) (le_max_right _ _)
    | exact le_min (le_max_right _ _) (le_max_right _ _)

theorem recordedStep_of_neverEscalates (single : report.neverEscalates = true) :
    state.recordedStep tuning report now = 1 := by
  rw [recordedStep_eq, if_pos single]

theorem recordedStep_le_of_flagged (flagged : report.isFlagged = true) :
    state.recordedStep tuning report now ≤ max state.consecutiveFailures 1 := by
  rw [recordedStep_eq]
  by_cases single : report.neverEscalates = true
  · rw [if_pos single]
    exact le_max_right _ _
  rw [if_neg single]
  by_cases on : state.goesOn report.failureClass now = true
  · rw [if_pos on, if_pos flagged]
  · rw [if_neg on]
    exact le_max_right _ _

theorem recordedStep_le_iff (usable : tuning.Usable)
    (limited : report.failureClass ≠ .concurrencySaturated) :
    state.recordedStep tuning report now ≤ tuning.transientRouteCooldownMaxStep ↔
      state.keepsHighStep tuning report now = false := by
  have least := usable.steps
  have capped : max tuning.transientRouteCooldownMaxStep 1 = tuning.transientRouteCooldownMaxStep :=
    max_eq_left least
  rw [recordedStep_eq, keepsHighStep, capped]
  by_cases single : report.neverEscalates = true
  · simpa [single] using least
  by_cases on : state.goesOn report.failureClass now = true
  · rw [if_neg single, if_pos on]
    by_cases flagged : report.isFlagged = true
    · simpa [single, on, flagged] using fun _ => least
    · have unsaturated : (report.failureClass != .concurrencySaturated) = true := by
        simpa using limited
      refine iff_of_true ?_ (by simp [flagged])
      rw [if_neg flagged, unsaturated, Bool.and_true]
      dsimp only
      split
      · exact Nat.min_le_right _ _
      · exact Nat.min_le_right _ _
  · simpa [single, on] using least

end HealthState

def RouteFailureReport.ceiling (report : RouteFailureReport) (tuning : RouteHealthTuning) :
    Duration :=
  if report.isSharedHost then edgeProxyRouteMax
  else
    match report.failureClass with
    | .capacityUnavailable | .rateLimited | .keyQuota => routeCooldownMax
    | .modelUnsupported => modelQuarantineMax
    | .edgeProxyError => edgeProxyRouteMax
    | .concurrencySaturated => tuning.concurrencyProbeDelays.max?.getD 0
    | _ => tuning.transientRouteCooldownMax

theorem sequenceDelay_mem {delays : List Duration} (filled : delays ≠ []) (step : Nat) :
    sequenceDelay delays step ∈ delays := by
  unfold sequenceDelay
  cases found : delays[step - 1]? with
  | some delay => exact List.mem_of_getElem? found
  | none =>
    obtain ⟨last, ends⟩ := Option.isSome_iff_exists.1 (List.getLast?_isSome.2 filled)
    rw [ends]
    exact List.mem_of_getLast? ends

section Local

variable (digest : List UInt8 → Nat) (tuning : RouteHealthTuning) (route : RouteHealthKey)
  (report : RouteFailureReport)

def localCooldown (step : Nat) : Duration :=
  routeCooldownWithConcurrencyDelays digest
    (if report.isSharedHost then .edgeProxyError else report.failureClass) step route
    tuning.concurrencyProbeDelays tuning.transientRouteCooldownBase
    tuning.transientRouteCooldownMax

theorem routeCooldown_pos (failureClass : RouteFailureClass) (step : Nat) (usable : tuning.Usable) :
    0 < routeCooldown digest failureClass step route tuning.transientRouteCooldownBase
      tuning.transientRouteCooldownMax := by
  unfold routeCooldown
  dsimp only
  split
  all_goals first
    | exact jitteredBackoff_pos digest (by decide +kernel) (by decide +kernel) _ _
    | exact jitteredBackoff_pos digest usable.base usable.maximum _ _

theorem localCooldown_pos (step : Nat) (usable : tuning.Usable) :
    0 < localCooldown digest tuning route report step := by
  unfold localCooldown routeCooldownWithConcurrencyDelays
  generalize (if report.isSharedHost then RouteFailureClass.edgeProxyError
    else report.failureClass) = failureClass
  by_cases saturated : failureClass = .concurrencySaturated
  · rw [if_pos saturated]
    exact lt_min (usable.delays _ (sequenceDelay_mem usable.probed step)) (by decide)
  · rw [if_neg saturated]
    exact routeCooldown_pos digest tuning route failureClass step usable

theorem localCooldown_le (step : Nat) (usable : tuning.Usable) :
    localCooldown digest tuning route report step ≤ report.ceiling tuning := by
  unfold localCooldown routeCooldownWithConcurrencyDelays RouteFailureReport.ceiling
  by_cases shared : report.isSharedHost = true
  · rw [if_pos shared, if_pos shared, if_neg (by decide)]
    exact jitteredBackoff_le_maximum digest _ _ _ _
  rw [if_neg shared, if_neg shared]
  by_cases saturated : report.failureClass = .concurrencySaturated
  · rw [if_pos saturated, saturated]
    refine (Nat.min_le_left _ _).trans ?_
    obtain ⟨longest, found⟩ := Option.isSome_iff_exists.1
      (List.isSome_max?_of_ne_nil usable.probed)
    dsimp only
    rw [found]
    exact (List.max?_eq_some_iff.1 found).2 _ (sequenceDelay_mem usable.probed step)
  · rw [if_neg saturated]
    unfold routeCooldown
    cases failureClass : report.failureClass
    all_goals first
      | exact absurd failureClass saturated
      | exact jitteredBackoff_le_maximum digest _ _ _ _

end Local

structure RecordedWithin (digest : List UInt8 → Nat) (tuning : RouteHealthTuning)
    (route : RouteHealthKey) (report : RouteFailureReport) (explicitRetry : Option Duration)
    (now : Instant) (before after : HealthState) : Prop where
  stepPos : 1 ≤ after.consecutiveFailures
  stepLimit : report.failureClass ≠ .concurrencySaturated →
    after.consecutiveFailures ≤ tuning.transientRouteCooldownMaxStep
  single : report.neverEscalates = true → after.consecutiveFailures = 1
  flagged : report.isFlagged = true →
    after.consecutiveFailures ≤ max before.consecutiveFailures 1
  cooldown : ∃ own, 1 ≤ own ∧ own ≤ report.ceiling tuning ∧
    (before.recordRouteFailure digest tuning route report none now).cooldownUntil =
      some (now + own) ∧
    after.cooldownUntil = some (now + match explicitRetry with
      | none => own
      | some explicit =>
        if report.failureClass = .concurrencySaturated then explicit else max explicit own)

section Recording

variable (digest : List UInt8 → Nat) (tuning : RouteHealthTuning) (route : RouteHealthKey)
  (report : RouteFailureReport) (explicitRetry : Option Duration) (now : Instant)
  (state : HealthState)

theorem recordRouteFailure_step :
    (state.recordRouteFailure digest tuning route report explicitRetry now).consecutiveFailures =
      state.recordedStep tuning report now := rfl

theorem recordRouteFailure_cooldown :
    (state.recordRouteFailure digest tuning route report explicitRetry now).cooldownUntil =
      some (now + match explicitRetry with
        | none => localCooldown digest tuning route report (state.recordedStep tuning report now)
        | some explicit =>
          if report.failureClass = .concurrencySaturated then explicit
          else max explicit
            (localCooldown digest tuning route report (state.recordedStep tuning report now))) := by
  unfold HealthState.recordRouteFailure
  dsimp only
  generalize same : routeCooldownWithConcurrencyDelays digest _ _ _ _ _ _ = own
  have own_eq : localCooldown digest tuning route report (state.recordedStep tuning report now) =
      own := same
  rw [own_eq]
  cases report.failureClass <;> cases explicitRetry <;> rfl

-- A recorded failure is as it should be unless it keeps a step that is above the limit.
theorem recordRouteFailure_within_iff (usable : tuning.Usable) :
    RecordedWithin digest tuning route report explicitRetry now state
        (state.recordRouteFailure digest tuning route report explicitRetry now) ↔
      (report.failureClass ≠ .concurrencySaturated →
        state.keepsHighStep tuning report now = false) := by
  constructor
  · intro within limited
    exact (state.recordedStep_le_iff tuning report now usable limited).1 (within.stepLimit limited)
  · intro low
    exact {
      stepPos := state.recordedStep_pos tuning report now
      stepLimit := fun limited =>
        (state.recordedStep_le_iff tuning report now usable limited).2 (low limited)
      single := state.recordedStep_of_neverEscalates tuning report now
      flagged := state.recordedStep_le_of_flagged tuning report now
      cooldown := ⟨_, localCooldown_pos digest tuning route report _ usable,
        localCooldown_le digest tuning route report _ usable,
        recordRouteFailure_cooldown digest tuning route report none now state,
        recordRouteFailure_cooldown digest tuning route report explicitRetry now state⟩ }

end Recording

namespace RouteHealthRegistry

def recordsRouteFailure (registry : RouteHealthRegistry) (route : RouteHealthKey)
    (report : RouteFailureReport) (now : Instant) : Bool :=
  routeFailureHasCooldown report.failureClass && !registry.observesRouteCapacity report &&
    (registry.ensureRouteCapacity route now).isSome

def failedEntry (registry : RouteHealthRegistry) (route : RouteHealthKey) (now : Instant) :
    HealthState :=
  (registry.routes.lookup route).getD (.new now)

def FailureWithin (digest : List UInt8 → Nat) (registry : RouteHealthRegistry)
    (route : RouteHealthKey) (report : RouteFailureReport) (explicitRetry : Option Duration)
    (now : Instant) : Prop :=
  registry.recordsRouteFailure route report now = true →
    ∃ entry, (registry.observeRouteFailureAt digest route report explicitRetry now).routes.lookup
        route = some entry ∧
      RecordedWithin digest registry.tuning route report explicitRetry now
        (registry.failedEntry route now) entry

def StepsWithin (registry : RouteHealthRegistry) : Prop :=
  ∀ route entry, registry.routes.lookup route = some entry →
    entry.lastFailureClass ≠ some .concurrencySaturated →
      entry.consecutiveFailures ≤ registry.tuning.transientRouteCooldownMaxStep

section Failures

variable {digest : List UInt8 → Nat} {registry : RouteHealthRegistry} {route : RouteHealthKey}
  {report : RouteFailureReport} {explicitRetry : Option Duration} {now : Instant}

theorem observeRouteFailureAt_lookup
    (recorded : registry.recordsRouteFailure route report now = true) :
    (registry.observeRouteFailureAt digest route report explicitRetry now).routes.lookup route =
      some ((registry.failedEntry route now).recordRouteFailure digest registry.tuning route report
        explicitRetry now) := by
  simp only [recordsRouteFailure, Bool.and_eq_true, Bool.not_eq_true'] at recorded
  obtain ⟨⟨cools, unobserved⟩, roomy⟩ := recorded
  obtain ⟨roomy, made⟩ := Option.isSome_iff_exists.1 roomy
  obtain ⟨frame, room⟩ := registry.ensureRouteCapacity_some now made
  have tuning : roomy.tuning = registry.tuning := by rw [frame]
  rw [observeRouteFailureAt, cools, unobserved, made]
  simp only [Bool.not_true, Bool.false_eq_true, if_false, upsertRoute, AList.lookup_insert, room.same,
    tuning]
  rfl

theorem failureWithin_iff (usable : registry.tuning.Usable) :
    registry.FailureWithin digest route report explicitRetry now ↔
      (registry.recordsRouteFailure route report now = true →
        report.failureClass ≠ .concurrencySaturated →
          (registry.failedEntry route now).keepsHighStep registry.tuning report now = false) := by
  refine forall_congr' fun recorded => ?_
  rw [observeRouteFailureAt_lookup recorded, ← recordRouteFailure_within_iff digest registry.tuning
    route report explicitRetry now _ usable]
  simp only [Option.some.injEq, exists_eq_left']

-- An entry after a failure with a cooldown is as before, is the recorded one or is the observed
-- one.
theorem observeRouteFailureAt_cases (cools : routeFailureHasCooldown report.failureClass = true)
    {other : RouteHealthKey} {entry : HealthState}
    (found : (registry.observeRouteFailureAt digest route report explicitRetry now).routes.lookup
      other = some entry) :
    registry.routes.lookup other = some entry ∨
      (other = route ∧ registry.recordsRouteFailure route report now = true ∧
        entry = (registry.failedEntry route now).recordRouteFailure digest registry.tuning route
          report explicitRetry now) ∨
      (other = route ∧ registry.observesRouteCapacity report = true ∧
        entry = (registry.failedEntry route now).noteRouteCapacity report.failureClass
          report.upstreamStatus now) := by
  cases made : registry.ensureRouteCapacity route now with
  | none =>
    refine .inl ?_
    rw [observeRouteFailureAt, cools, observeCapacityRouteFailureAt, made] at found
    simpa using found
  | some roomy =>
    obtain ⟨frame, room⟩ := registry.ensureRouteCapacity_some now made
    by_cases own : other = route
    · subst own
      cases observed : registry.observesRouteCapacity report with
      | false =>
        have recorded : registry.recordsRouteFailure other report now = true := by
          simp [recordsRouteFailure, cools, observed, made]
        rw [observeRouteFailureAt_lookup recorded] at found
        exact .inr (.inl ⟨rfl, recorded, (Option.some.inj found).symm⟩)
      | true =>
        rw [observeRouteFailureAt, cools, observed, observeCapacityRouteFailureAt, made] at found
        simp only [Bool.not_true, Bool.false_eq_true, if_false, if_true, upsertRoute,
          countCooldownSkipped, AList.lookup_insert, room.same, Option.some.injEq] at found
        exact .inr (.inr ⟨rfl, rfl, found.symm⟩)
    · refine .inl ?_
      have kept : roomy.routes.lookup other = some entry := by
        rw [observeRouteFailureAt, if_neg (by simp [cools]), observeCapacityRouteFailureAt,
          made] at found
        split at found <;>
          simpa [upsertRoute, countCooldownSkipped, AList.lookup_insert_ne own] using found
      rcases room.others other with same | ⟨_, -, -, gone⟩
      · rwa [← same]
      · rw [gone] at kept
        cases kept

theorem StepsWithin.keepsHighStep (steps : registry.StepsWithin)
    (limited : report.failureClass ≠ .concurrencySaturated) :
    (registry.failedEntry route now).keepsHighStep registry.tuning report now = false := by
  rw [failedEntry, HealthState.keepsHighStep, Bool.eq_false_iff]
  intro high
  simp only [Bool.and_eq_true, decide_eq_true_eq, HealthState.goesOn, beq_iff_eq] at high
  obtain ⟨⟨⟨-, -, same⟩, -⟩, above⟩ := high
  cases found : registry.routes.lookup route with
  | none =>
    rw [found] at same
    cases same
  | some entry =>
    rw [found, Option.getD_some] at same above
    have below := steps route entry found (by simpa [same] using limited)
    omega

theorem StepsWithin.quieter {middle : RouteHealthRegistry} (steps : registry.StepsWithin)
    (quieter : Quieter registry middle) (tuning : middle.tuning = registry.tuning) :
    middle.StepsWithin := by
  intro route entry found limited
  obtain ⟨old, stored, quiet⟩ := quieter.routes route entry found
  rw [tuning]
  rcases quiet with ⟨count, same, -⟩ | ⟨none, -, -⟩
  · rw [count]
    exact steps route old stored (same ▸ limited)
  · rw [none]
    exact Nat.zero_le _

theorem Records.tuning {reported : Option ReportedFailure} {middle after : RouteHealthRegistry}
    (records : Records now digest reported middle after) : after.tuning = middle.tuning := by
  cases records with
  | nothing => rfl
  | route route report explicitRetry =>
    obtain ⟨_, _, frame⟩ := middle.observeRouteFailureAt_frame now digest route report explicitRetry
    rw [frame]
  | key key failureClass explicitRetry =>
    obtain ⟨_, _, frame⟩ :=
      middle.observeKeyFailureAt_frame now digest key failureClass explicitRetry
    rw [frame]

end Failures

end RouteHealthRegistry

namespace HealthOperation

/-- A capacity failure that is only observed does not take the class of a saturated route whose step
is above the limit. -/
def KeepsSteps (registry : RouteHealthRegistry) (operation : HealthOperation) : Prop :=
  ∀ route report explicitRetry entry,
    operation.reported = some (route, report, explicitRetry) →
    registry.observesRouteCapacity report = true → registry.routes.lookup route = some entry →
    entry.lastFailureClass = some .concurrencySaturated →
      entry.consecutiveFailures ≤ registry.tuning.transientRouteCooldownMaxStep

end HealthOperation

namespace RouteHealthRegistry

theorem StepsWithin.apply {digest : List UInt8 → Nat} {registry : RouteHealthRegistry}
    {operation : HealthOperation} {now : Instant} (usable : registry.tuning.Usable)
    (steps : registry.StepsWithin) (tuned : operation.KeepsTuning)
    (keeps : operation.KeepsSteps registry) :
    (operation.apply digest now registry).1.StepsWithin := by
  obtain ⟨middle, quieter, records⟩ := registry.apply_records now digest operation
  have whole := operation.apply_tuning digest now registry tuned
  have tuning : middle.tuning = registry.tuning := records.tuning.symm.trans whole
  have early := steps.quieter quieter tuning
  have limit : (operation.apply digest now registry).1.tuning = middle.tuning := records.tuning
  intro other entry found limited
  rw [limit]
  generalize (operation.apply digest now registry).1 = after at records found
  cases records with
  | nothing => exact early other entry found limited
  | key key failureClass explicitRetry =>
    rw [middle.observeKeyFailureAt_routes now digest key failureClass explicitRetry] at found
    exact early other entry found limited
  | route route report explicitRetry source cools =>
    rcases observeRouteFailureAt_cases cools found with kept | ⟨rfl, recorded, rfl⟩ |
      ⟨rfl, observed, rfl⟩
    · exact early other entry kept limited
    · have unsaturated : report.failureClass ≠ .concurrencySaturated := fun saturated =>
        limited (congrArg some saturated)
      exact (HealthState.recordedStep_le_iff _ _ _ _ (tuning ▸ usable) unsaturated).2
        (early.keepsHighStep unsaturated)
    · -- the observation keeps the step, so it must not have been one of a saturated route
      change (middle.failedEntry other now).consecutiveFailures ≤ _
      cases present : middle.routes.lookup other with
      | none =>
        rw [failedEntry, present]
        exact Nat.zero_le _
      | some before =>
        rw [failedEntry, present, Option.getD_some]
        by_cases saturated : before.lastFailureClass = some .concurrencySaturated
        · obtain ⟨old, stored, quiet⟩ := quieter.routes other before present
          rcases quiet with ⟨count, same, -⟩ | ⟨none, -, -⟩
          · rw [count, tuning]
            have observes : registry.observesRouteCapacity report = true := by
              rw [← observed, observesRouteCapacity, observesRouteCapacity, tuning]
            exact keeps other report explicitRetry old source observes stored (same ▸ saturated)
          · rw [none]
            exact Nat.zero_le _
        · exact early other before present saturated

end RouteHealthRegistry

theorem HealthOperation.apply_usable (digest : List UInt8 → Nat) (operation : HealthOperation)
    (now : Instant) {registry : RouteHealthRegistry} (usable : registry.tuning.Usable) :
    (operation.apply digest now registry).1.tuning.Usable := by
  by_cases keeps : operation.KeepsTuning
  · rw [HealthOperation.apply_tuning digest operation now registry keeps]
    exact usable
  · cases operation with
    | updateRuntimeTuning settings => exact settings.normalize_usable
    | setRouteHealthEnforcementEnabled enabled =>
      exact ⟨usable.probed, usable.delays, usable.base, usable.maximum, usable.steps⟩
    | _ => exact absurd trivial keeps

theorem HealthSystem.Reachable.usable {digest : List UInt8 → Nat} {system : HealthSystem}
    (reachable : system.Reachable digest) : system.registry.tuning.Usable := by
  refine reachable.invariant (fun system => system.registry.tuning.Usable) ?_ ?_
  · rintro first ⟨_, _, settings, _, rfl⟩
    exact settings.normalize_usable
  · intro before label after step usable
    cases step with
    | operate operation now => exact operation.apply_usable digest now usable
    | reorder => exact usable

def FixedTuning (_ : HealthSystem) (label : Option HealthOperation) : Prop :=
  ∀ operation ∈ label, operation.KeepsTuning

def FixedSteps (system : HealthSystem) (label : Option HealthOperation) : Prop :=
  ∀ operation ∈ label, operation.KeepsTuning ∧ operation.KeepsSteps system.registry

theorem stepsWithin_of_run {digest : List UInt8 → Nat} {first system : HealthSystem}
    (start : first.registry.tuning.Usable ∧ first.registry.StepsWithin)
    (run : Transition.Steps (HealthStep digest) FixedSteps first system) :
    system.registry.tuning.Usable ∧ system.registry.StepsWithin := by
  refine run.invariant
    (fun system => system.registry.tuning.Usable ∧ system.registry.StepsWithin) ?_ start
  rintro before label after step guarded ⟨usable, steps⟩
  cases step with
  | operate operation now =>
    obtain ⟨tuned, keeps⟩ := guarded operation rfl
    exact ⟨operation.apply_usable digest now usable, steps.apply usable tuned keeps⟩
  | reorder routes keys sameRoutes sameKeys =>
    refine ⟨usable, fun route entry found => ?_⟩
    exact steps route entry (sameRoutes.lookup route ▸ found)

theorem HealthSystem.Initial.stepsWithin {first : HealthSystem} (initial : first.Initial) :
    first.registry.tuning.Usable ∧ first.registry.StepsWithin := by
  obtain ⟨_, _, settings, _, rfl⟩ := initial
  refine ⟨settings.normalize_usable, fun route entry found => ?_⟩
  have absent : (none : Option HealthState) = some entry :=
    (AList.lookup_empty route).symm.trans found
  cases absent

/-- Under fixed tuning a failure is recorded within its bounds exactly when it does not keep a step
above the limit, and none does in a run in which no observation takes the class of a saturated route
whose step is above it. -/
theorem failures_stay_within_bounds (digest : List UInt8 → Nat) (first system : HealthSystem)
    (initial : first.Initial)
    (run : Transition.Steps (HealthStep digest) FixedTuning first system) :
    (∀ route report explicitRetry now,
      system.registry.FailureWithin digest route report explicitRetry now ↔
        (system.registry.recordsRouteFailure route report now = true →
          report.failureClass ≠ .concurrencySaturated →
            (system.registry.failedEntry route now).keepsHighStep system.registry.tuning report
              now = false)) ∧
      (Transition.Steps (HealthStep digest) FixedSteps first system →
        ∀ route report explicitRetry now,
          system.registry.FailureWithin digest route report explicitRetry now) := by
  have reachable : system.Reachable digest := ⟨first, initial, run.weaken fun _ _ _ => trivial⟩
  refine ⟨fun route report explicitRetry now =>
    RouteHealthRegistry.failureWithin_iff reachable.usable, fun kept route report explicitRetry now => ?_⟩
  obtain ⟨usable, steps⟩ := stepsWithin_of_run initial.stepsWithin kept
  exact (RouteHealthRegistry.failureWithin_iff usable).2 fun _ limited =>
    steps.keepsHighStep limited

theorem failures_stay_within_bounds_at_start :
    (HealthSystem.start 1 1 .default 0).registry.FailureWithin (fun _ => 0) exampleRoute
      { failureClass := .transientServer } none 0 :=
  (failures_stay_within_bounds (fun _ => 0) _ _ ⟨1, 1, .default, 0, rfl⟩ .refl).2 .refl _ _ _ _

/-- A run in which saturation takes the step of a route to two where the limit is one, and a rate
limit that is only observed takes its class. -/
def observedAfterSaturation : Option HealthSystem :=
  let settings : RouteHealthSettings :=
    { RouteHealthSettings.default with
      transientRouteCooldownMaxStep := 1, capacityFailureCooldownEnabled := true }
  let fresh : HealthLease := ⟨exampleRoute, exampleKey, none, none, none, false⟩
  let probe : HealthLease := ⟨exampleRoute, exampleKey, none, some 1, some 1, true⟩
  (HealthSystem.start 16 16 settings 0).replay (fun _ => 0)
    [(.reserve exampleRoute exampleKey, 0),
      (.observeRouteFailure exampleRoute .concurrencySaturated none false, 0),
      (.reserve exampleRoute exampleKey, Duration.fromSecs 1),
      (.finish probe (.routeFailure { failureClass := .concurrencySaturated }),
        Duration.fromSecs 1),
      (.finish fresh (.routeFailure { failureClass := .rateLimited, capacitySoleRoute := true }),
        Duration.fromSecs 1)]

/-- After it a rate limit of a request that has failed on the route before keeps the step of two. -/
theorem flagged_failure_keeps_step_above_limit :
    ∃ system : HealthSystem, system.Reachable (fun _ => 0) ∧
      ¬ system.registry.FailureWithin (fun _ => 0) exampleRoute
        { failureClass := .rateLimited, repeatWithinRequest := true } none system.now := by
  have ran : observedAfterSaturation.isSome = true := by decide +kernel
  obtain ⟨system, run⟩ := Option.isSome_iff_exists.1 ran
  have reachable : system.Reachable (fun _ => 0) :=
    HealthSystem.replay_reachable _ _ (HealthSystem.start_reachable _ _ _ _ _) run
  refine ⟨system, reachable, fun within => ?_⟩
  have high : observedAfterSaturation.any (fun system =>
      system.registry.recordsRouteFailure exampleRoute
          { failureClass := .rateLimited, repeatWithinRequest := true } system.now &&
        (system.registry.failedEntry exampleRoute system.now).keepsHighStep system.registry.tuning
          { failureClass := .rateLimited, repeatWithinRequest := true } system.now) = true := by
    decide +kernel
  rw [run, Option.any_some, Bool.and_eq_true] at high
  have low := (RouteHealthRegistry.failureWithin_iff reachable.usable).1 within high.1 (by decide)
  rw [low] at high
  cases high.2

end ChatGateway
