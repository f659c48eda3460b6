import ChatGateway.Routing.RouteRetry

set_option autoImplicit false

/-!
# Bounds on the waits of a request

Each wait uses up one of three budgets: the busy rounds, the one aligned wait, or the rounds below
the larger of the two round caps. Time bounds them all.
-/

namespace ChatGateway

namespace RouteRetryGrant

/-- The time limit a wait is charged to. A busy wait is charged to the total time budget, whatever
the recovery. -/
def limit (policy : RouteRetryPolicy) (grant : RouteRetryGrant) : Duration :=
  if grant.ask.concurrencyRecovery && !grant.wait.busy then policy.concurrencyMaxWait
  else policy.maxWait

def ordinary (grant : RouteRetryGrant) : Bool :=
  !grant.wait.busy && !grant.wait.alignment

structure Sound (policy : RouteRetryPolicy) (grant : RouteRetryGrant) : Prop where
  temporary : ∃ retryAfter, grant.ask.terminal = .temporary retryAfter
  expected : grant.before.Expects grant.wait
  within : grant.wait.sleepFor = 0 ∨ grant.after.waited ≤ grant.limit policy
  remaining : grant.wait.remainingAfter = grant.limit policy - grant.after.waited

end RouteRetryGrant

def RouteRetryPolicy.roundLimit (policy : RouteRetryPolicy) : Nat :=
  max policy.maxRounds policy.concurrencyMaxRounds

section Grants

variable {sha256 : List UInt8 → List UInt8} {policy : RouteRetryPolicy}
  {budget : RouteRetryBudget} {ask : RouteRetryAsk} {wait : RouteRetryWait}

namespace RouteRetryPolicy

structure Fits (maxWait : Duration) (budget : RouteRetryBudget) (wait : RouteRetryWait) : Prop where
  sleepFor : wait.sleepFor ≤ maxWait - budget.waited
  remainingAfter : wait.remainingAfter = maxWait - budget.waited - wait.sleepFor

theorem waitWithin_some {maxWait requiredDelay jitter : Duration} {alignment : Bool}
    {sum : Option Duration}
    (granted : (policy.waitWithin budget maxWait requiredDelay jitter alignment sum).1 =
      some wait) :
    wait.busy = false ∧ wait.alignment = alignment ∧
      wait.nextRound = saturatingSucc32 budget.currentRound ∧ Fits maxWait budget wait := by
  cases sum with
  | none => cases granted
  | some sleepFor =>
    unfold waitWithin at granted
    dsimp only at granted
    split at granted
    next fits =>
      cases granted
      exact ⟨rfl, rfl, rfl, fits, rfl⟩
    next =>
      split at granted
      next =>
        cases granted
        exact ⟨rfl, rfl, rfl, Nat.le_refl _, (Nat.sub_self _).symm⟩
      next => cases granted

theorem grantWithin_some {maxWait requiredDelay : Duration} {alignment : Bool}
    (granted : (policy.grantWithin sha256 budget ask.requestId maxWait requiredDelay alignment).1 =
      some wait) :
    wait.busy = false ∧ wait.alignment = alignment ∧
      wait.nextRound = saturatingSucc32 budget.currentRound ∧ Fits maxWait budget wait :=
  waitWithin_some granted

theorem busyWait_some {requiredDelay jitter sleepFor : Duration}
    (granted : (policy.busyWait budget requiredDelay jitter sleepFor).1 = some wait) :
    wait.busy = true ∧ wait.alignment = false ∧ wait.nextRound = budget.currentRound ∧
      wait.sleepFor = sleepFor ∧ Fits policy.maxWait budget wait := by
  unfold busyWait at granted
  dsimp only at granted
  split at granted
  next => cases granted
  next fits =>
    cases granted
    exact ⟨rfl, rfl, rfl, rfl, Nat.le_of_not_lt fits, rfl⟩

theorem checkedAdd_ge {first second sum : Duration}
    (added : Duration.checkedAdd first second = some sum) : first ≤ sum := by
  unfold Duration.checkedAdd at added
  split at added
  next =>
    cases added
    exact Nat.le_add_right _ _
  next => cases added

theorem decideBusy_some (granted : (policy.decideBusy sha256 budget ask.requestId).1 = some wait) :
    wait.busy = true ∧ wait.alignment = false ∧ wait.nextRound = budget.currentRound ∧
      saturatingSucc32 budget.busyRounds ≤ policy.busyMaxRounds ∧
      halfOpenBusyRetry ≤ wait.sleepFor ∧ Fits policy.maxWait budget wait := by
  unfold decideBusy at granted
  dsimp only at granted
  split at granted
  next => cases granted
  next allowed =>
    split at granted
    next => cases granted
    next sleepFor added =>
      obtain ⟨busy, alignment, nextRound, slept, fits⟩ := busyWait_some granted
      exact ⟨busy, alignment, nextRound, Nat.le_of_not_lt allowed, slept ▸ checkedAdd_ge added, fits⟩

theorem decideWithReason_some (granted : (policy.decideWithReason sha256 budget ask).1 = some wait) :
    (∃ retryAfter, ask.terminal = .temporary retryAfter) ∧
      ((wait.busy = true ∧ wait.alignment = false ∧ wait.nextRound = budget.currentRound ∧
          saturatingSucc32 budget.busyRounds ≤ policy.busyMaxRounds ∧
          halfOpenBusyRetry ≤ wait.sleepFor ∧ Fits policy.maxWait budget wait) ∨
        (wait.busy = false ∧ wait.alignment = true ∧ budget.alignmentUsed = false ∧
          ask.concurrencyRecovery = false ∧
          wait.nextRound = saturatingSucc32 budget.currentRound ∧ Fits policy.maxWait budget wait) ∨
        (wait.busy = false ∧ wait.alignment = false ∧ budget.currentRound < policy.roundLimit ∧
          wait.nextRound = saturatingSucc32 budget.currentRound ∧
          Fits (policy.limits ask).1 budget wait)) := by
  unfold decideWithReason at granted
  split at granted
  next => cases granted
  next =>
    split at granted
    next retryAfter terminal =>
      refine ⟨⟨retryAfter, terminal⟩, ?_⟩
      split at granted
      next => cases granted
      next =>
        split at granted
        next => exact Or.inl (decideBusy_some granted)
        next =>
          dsimp only at granted
          split at granted
          next =>
            unfold decideAtRoundCap at granted
            split at granted
            next recovery aligned =>
              obtain ⟨busy, alignment, nextRound, fits⟩ := grantWithin_some granted
              unfold alignable at aligned
              split at aligned
              next unused =>
                obtain ⟨present, transient⟩ := Option.filter_eq_some_iff.mp aligned
                simp only [Bool.and_eq_true, Bool.not_eq_true'] at unused
                have ordinary : ask.concurrencyRecovery = false := by
                  rw [RouteRetryAsk.concurrencyRecovery, present, Option.any_some]
                  rcases Bool.or_eq_true _ _ ▸ transient with server | proxy
                  · simp [of_decide_eq_true server]
                  · simp [of_decide_eq_true proxy]
                exact Or.inr (Or.inl ⟨busy, alignment, unused.1.2, ordinary, nextRound, fits⟩)
              next => cases aligned
            next =>
              split at granted
              next => cases granted
              next =>
                split at granted
                next => cases granted
                next => split at granted <;> cases granted
          next below =>
            obtain ⟨busy, alignment, nextRound, fits⟩ := grantWithin_some granted
            refine Or.inr (Or.inr ⟨busy, alignment, ?_, nextRound, fits⟩)
            unfold limits at below
            unfold roundLimit
            split at below <;> omega
    next => cases granted

end RouteRetryPolicy

theorem recordWait_waited_le (budget : RouteRetryBudget) (wait : RouteRetryWait) :
    (budget.recordWait wait).waited ≤ Duration.maximum := by
  simp only [RouteRetryBudget.recordWait, Duration.checkedAdd]
  split
  next within => exact within
  next => exact Nat.le_refl _

theorem waited_within {waited slept limit maximum : Nat} (fits : slept ≤ limit - waited)
    (bounded : limit ≤ maximum) (real : waited ≤ maximum) : waited + slept ≤ maximum := by
  omega

theorem waited_charged {waited slept limit : Nat} (fits : slept ≤ limit - waited) :
    slept = 0 ∨ waited + slept ≤ limit := by
  omega

theorem recordWait_waited {maxWait : Duration} (bounded : maxWait ≤ Duration.maximum)
    (real : budget.waited ≤ Duration.maximum) (fits : RouteRetryPolicy.Fits maxWait budget wait) :
    (budget.recordWait wait).waited = budget.waited + wait.sleepFor := by
  have within : budget.waited + wait.sleepFor ≤ Duration.maximum :=
    waited_within fits.sleepFor bounded real
  simp only [RouteRetryBudget.recordWait, Duration.checkedAdd, if_pos within, Option.getD_some]

theorem grant_sound (real : budget.waited ≤ Duration.maximum)
    (granted : (policy.decideWithReason sha256 budget ask).1 = some wait) :
    RouteRetryGrant.Sound policy ⟨ask, budget, wait⟩ := by
  -- Each kind of wait fits the limit it is charged to.
  have charged : ∀ {maxWait : Duration}, maxWait ≤ Duration.maximum →
      RouteRetryPolicy.Fits maxWait budget wait →
        (wait.sleepFor = 0 ∨ (budget.recordWait wait).waited ≤ maxWait) ∧
          wait.remainingAfter = maxWait - (budget.recordWait wait).waited := by
    intro maxWait bounded fits
    rw [recordWait_waited bounded real fits]
    exact ⟨waited_charged fits.sleepFor, fits.remainingAfter.trans (Nat.sub_sub _ _ _)⟩
  obtain ⟨temporary, ⟨busy, -, nextRound, -, -, fits⟩ | ⟨busy, -, -, ordinary, nextRound, fits⟩ |
    ⟨busy, -, -, nextRound, fits⟩⟩ := RouteRetryPolicy.decideWithReason_some granted
  · have limited : RouteRetryGrant.limit policy ⟨ask, budget, wait⟩ = policy.maxWait := by
      simp [RouteRetryGrant.limit, busy]
    obtain ⟨within, remaining⟩ := charged policy.maxWaitBounded fits
    exact ⟨temporary, by simp [RouteRetryBudget.Expects, busy, nextRound], limited ▸ within,
      limited ▸ remaining⟩
  · have limited : RouteRetryGrant.limit policy ⟨ask, budget, wait⟩ = policy.maxWait := by
      simp [RouteRetryGrant.limit, ordinary]
    obtain ⟨within, remaining⟩ := charged policy.maxWaitBounded fits
    exact ⟨temporary, by simp [RouteRetryBudget.Expects, busy, nextRound], limited ▸ within,
      limited ▸ remaining⟩
  · have limited : RouteRetryGrant.limit policy ⟨ask, budget, wait⟩ = (policy.limits ask).1 := by
      simp only [RouteRetryGrant.limit, RouteRetryPolicy.limits, busy, Bool.not_false, Bool.and_true]
      split <;> rfl
    have bounded : (policy.limits ask).1 ≤ Duration.maximum := by
      unfold RouteRetryPolicy.limits
      split
      · exact policy.concurrencyMaxWaitBounded
      · exact policy.maxWaitBounded
    obtain ⟨within, remaining⟩ := charged bounded fits
    exact ⟨temporary, by simp [RouteRetryBudget.Expects, busy, nextRound], limited ▸ within,
      limited ▸ remaining⟩

/-! ## Whole runs

A wait of each kind uses up what is left of its own budget, and no wait of another kind gives any of
it back. -/

structure Bounds (policy : RouteRetryPolicy) (kind : RouteRetryGrant → Bool)
    (left : RouteRetryBudget → Nat) : Prop where
  spent : ∀ {sha256 budget ask wait}, budget.waited ≤ Duration.maximum →
    (policy.decideWithReason sha256 budget ask).1 = some wait →
      left (budget.recordWait wait) + (if kind ⟨ask, budget, wait⟩ then 1 else 0) ≤ left budget

theorem Bounds.count_le {kind : RouteRetryGrant → Bool} {left : RouteRetryBudget → Nat}
    (bounds : Bounds policy kind left) (real : budget.waited ≤ Duration.maximum)
    (asks : List RouteRetryAsk) :
    (policy.grants sha256 budget asks).countP kind ≤ left budget := by
  induction asks generalizing budget with
  | nil => exact Nat.zero_le _
  | cons ask rest ih =>
    unfold RouteRetryPolicy.grants
    split
    next => exact ih real
    next wait granted =>
      have spent := bounds.spent real granted
      have later := ih (recordWait_waited_le budget wait)
      rw [List.countP_cons]
      omega

theorem grants_sound (real : budget.waited ≤ Duration.maximum) (asks : List RouteRetryAsk) :
    ∀ grant ∈ policy.grants sha256 budget asks, grant.Sound policy := by
  induction asks generalizing budget with
  | nil => exact fun _ absent => nomatch absent
  | cons ask rest ih =>
    unfold RouteRetryPolicy.grants
    split
    next => exact ih real
    next wait granted =>
      intro grant member
      rcases List.mem_cons.mp member with rfl | later
      · exact grant_sound real granted
      · exact ih (recordWait_waited_le budget wait) grant later

theorem saturatingSucc32_lt {value : Nat} (below : value < u32Max) :
    saturatingSucc32 value = value + 1 := by
  unfold saturatingSucc32
  unfold u32Max at below
  omega

theorem recordWait_ordinary (kind : wait.busy = false)
    (nextRound : wait.nextRound = saturatingSucc32 budget.currentRound) :
    (budget.recordWait wait).currentRound = saturatingSucc32 budget.currentRound ∧
      (budget.recordWait wait).busyRounds = budget.busyRounds := by
  simp [RouteRetryBudget.recordWait, kind, nextRound]

theorem recordWait_busy (kind : wait.busy = true) :
    (budget.recordWait wait).currentRound = budget.currentRound ∧
      (budget.recordWait wait).busyRounds = saturatingSucc32 budget.busyRounds := by
  simp [RouteRetryBudget.recordWait, kind]

theorem roundLimit_le : policy.roundLimit ≤ u32Max :=
  Nat.max_le.mpr ⟨policy.maxRoundsBounded.2, policy.concurrencyMaxRoundsBounded.2⟩

theorem succ_round_left {round limit : Nat} (below : round < limit) (bounded : limit ≤ u32Max) :
    limit - saturatingSucc32 round + 1 ≤ limit - round := by
  rw [saturatingSucc32_lt (by omega)]
  omega

theorem round_left_le (round : Nat) {limit : Nat} (bounded : limit ≤ u32Max) :
    limit - saturatingSucc32 round ≤ limit - round := by
  unfold saturatingSucc32
  unfold u32Max at bounded
  omega

theorem ordinary_bounds :
    Bounds policy RouteRetryGrant.ordinary fun budget => policy.roundLimit - budget.currentRound where
  spent {sha256 budget ask wait} _ granted := by
    obtain ⟨-, ⟨busy, -, -⟩ | ⟨busy, alignment, -, -, nextRound, -⟩ |
      ⟨busy, alignment, below, nextRound, -⟩⟩ := RouteRetryPolicy.decideWithReason_some granted
    · simp [RouteRetryGrant.ordinary, busy, (recordWait_busy busy).1]
    · simpa [RouteRetryGrant.ordinary, alignment, (recordWait_ordinary busy nextRound).1] using
        round_left_le budget.currentRound roundLimit_le
    · simpa [RouteRetryGrant.ordinary, busy, alignment, (recordWait_ordinary busy nextRound).1] using
        succ_round_left below roundLimit_le

theorem aligned_bounds :
    Bounds policy (fun grant => grant.wait.alignment) fun budget =>
      if budget.alignmentUsed then 0 else 1 where
  spent {sha256 budget ask wait} _ granted := by
    obtain ⟨-, ⟨-, alignment, -⟩ | ⟨-, alignment, unused, -⟩ | ⟨-, alignment, -⟩⟩ :=
      RouteRetryPolicy.decideWithReason_some granted
    · simp [RouteRetryBudget.recordWait, alignment]
    · simp [RouteRetryBudget.recordWait, alignment, unused]
    · simp [RouteRetryBudget.recordWait, alignment]

-- Busy waits use up the busy rounds, as long as the counter of the rounds does not saturate.
theorem busy_bounds (unsaturated : policy.busyMaxRounds < u32Max) :
    Bounds policy (fun grant => grant.wait.busy) fun budget =>
      policy.busyMaxRounds - budget.busyRounds where
  spent {sha256 budget ask wait} _ granted := by
    obtain ⟨-, ⟨busy, -, -, allowed, -⟩ | ⟨busy, -, -, -, nextRound, -⟩ | ⟨busy, -, -, nextRound, -⟩⟩ :=
      RouteRetryPolicy.decideWithReason_some granted
    · have below : budget.busyRounds < policy.busyMaxRounds := by
        unfold saturatingSucc32 at allowed
        unfold u32Max at unsaturated
        omega
      simpa [busy, (recordWait_busy busy).2] using
        succ_round_left below (Nat.le_of_lt unsaturated)
    · simp [busy, (recordWait_ordinary busy nextRound).2]
    · simp [busy, (recordWait_ordinary busy nextRound).2]

theorem second_left {waited slept limit : Nat} (fits : slept ≤ limit - waited)
    (second : 1000000000 ≤ slept) :
    (limit - (waited + slept)) / 1000000000 + 1 ≤ (limit - waited) / 1000000000 := by
  omega

theorem seconds_left_le {waited slept limit : Nat} :
    (limit - (waited + slept)) / 1000000000 ≤ (limit - waited) / 1000000000 :=
  Nat.div_le_div_right (by omega)

theorem busy_time_bounds :
    Bounds policy (fun grant => grant.wait.busy) fun budget =>
      (policy.maxWait - budget.waited) / Duration.fromSecs 1 where
  spent {sha256 budget ask wait} real granted := by
    have limited : (policy.limits ask).1 ≤ Duration.maximum := by
      unfold RouteRetryPolicy.limits
      split
      · exact policy.concurrencyMaxWaitBounded
      · exact policy.maxWaitBounded
    obtain ⟨-, ⟨busy, -, -, -, second, fits⟩ | ⟨busy, -, -, -, -, fits⟩ | ⟨busy, -, -, -, fits⟩⟩ :=
      RouteRetryPolicy.decideWithReason_some granted
    · simp only [recordWait_waited policy.maxWaitBounded real fits, busy, if_true]
      exact second_left fits.sleepFor second
    · simp only [recordWait_waited policy.maxWaitBounded real fits, busy, Bool.false_eq_true, if_false]
      exact seconds_left_le
    · simp only [recordWait_waited limited real fits, busy, Bool.false_eq_true, if_false]
      exact seconds_left_le

end Grants

/-- How many busy waits a request can take. A counter that saturates at its own cap leaves the time
budget to bound them. -/
def RouteRetryPolicy.busyLimit (policy : RouteRetryPolicy) : Nat :=
  if policy.busyMaxRounds < u32Max then policy.busyMaxRounds
  else policy.maxWait / Duration.fromSecs 1

theorem countP_unbusy_le (grants : List RouteRetryGrant) :
    grants.countP (fun grant => !grant.wait.busy) ≤
      grants.countP (fun grant => grant.wait.alignment) + grants.countP RouteRetryGrant.ordinary := by
  induction grants with
  | nil => simp
  | cons grant rest ih =>
    have one : (if (!grant.wait.busy) = true then 1 else 0) ≤
        (if grant.wait.alignment = true then 1 else 0) +
          if grant.ordinary = true then 1 else 0 := by
      rcases Bool.eq_false_or_eq_true grant.wait.busy with busy | busy <;>
        rcases Bool.eq_false_or_eq_true grant.wait.alignment with alignment | alignment <;>
          simp [RouteRetryGrant.ordinary, busy, alignment]
    simp only [List.countP_cons]
    omega

theorem length_eq_countP_busy (grants : List RouteRetryGrant) :
    grants.length = grants.countP (fun grant => grant.wait.busy) +
      grants.countP fun grant => !grant.wait.busy := by
  have total := @List.length_eq_countP_add_countP _ (fun grant => grant.wait.busy) grants
  simpa using total

/-- However the upstreams answer, the waits of a request stay within its budgets. -/
theorem retrying_bounded (sha256 : List UInt8 → List UInt8) (policy : RouteRetryPolicy)
    (asks : List RouteRetryAsk) :
    let grants := policy.grants sha256 {} asks
    (∀ grant ∈ grants, grant.Sound policy) ∧
      grants.countP (fun grant => grant.wait.alignment) ≤ 1 ∧
      grants.countP (fun grant => !grant.wait.busy) ≤ policy.roundLimit ∧
      grants.countP (fun grant => grant.wait.busy) ≤ policy.busyLimit ∧
      grants.length ≤ policy.roundLimit + policy.busyLimit := by
  intro grants
  have fresh : ({} : RouteRetryBudget).waited ≤ Duration.maximum := Nat.zero_le _
  have aligned : grants.countP (fun grant => grant.wait.alignment) ≤ 1 :=
    aligned_bounds.count_le fresh asks
  have ordinary : grants.countP RouteRetryGrant.ordinary ≤ policy.roundLimit - 1 :=
    ordinary_bounds.count_le fresh asks
  have busy : grants.countP (fun grant => grant.wait.busy) ≤ policy.busyLimit := by
    unfold RouteRetryPolicy.busyLimit
    split
    next unsaturated => exact (busy_bounds unsaturated).count_le fresh asks
    next => exact busy_time_bounds.count_le fresh asks
  have positive : 1 ≤ policy.roundLimit :=
    Nat.le_trans policy.maxRoundsBounded.1 (Nat.le_max_left _ _)
  have unbusy : grants.countP (fun grant => !grant.wait.busy) ≤ policy.roundLimit := by
    have kinds := countP_unbusy_le grants
    omega
  refine ⟨grants_sound fresh asks, aligned, unbusy, busy, ?_⟩
  have total := length_eq_countP_busy grants
  omega

/-- The first eight bytes of the digests of `req-10` in the rounds one to three. -/
def exampleSha256 (input : List UInt8) : List UInt8 :=
  if input.drop 6 = [1, 0, 0, 0] then [101, 1, 42, 102, 69, 250, 142, 118]
  else if input.drop 6 = [2, 0, 0, 0] then [63, 247, 244, 187, 162, 5, 61, 66]
  else [220, 91, 199, 131, 47, 29, 152, 122]

def examplePolicy (maxWait concurrencyMaxWait : Duration) (busyMaxRounds : Nat)
    (maxWaitBounded : maxWait ≤ Duration.maximum)
    (concurrencyMaxWaitBounded : concurrencyMaxWait ≤ Duration.maximum)
    (busyMaxRoundsBounded : 1 ≤ busyMaxRounds ∧ busyMaxRounds ≤ u32Max) : RouteRetryPolicy where
  enabled := true
  maxWait := maxWait
  maxRounds := 3
  concurrencyMaxWait := concurrencyMaxWait
  concurrencyMaxRounds := 32
  budgetAlignmentEnabled := true
  busyMaxRounds := busyMaxRounds
  alignmentTruncatedEnabled := true
  rateLimitInternalRetryEnabled := false
  maxWaitBounded := maxWaitBounded
  concurrencyMaxWaitBounded := concurrencyMaxWaitBounded
  maxRoundsBounded := by decide
  concurrencyMaxRoundsBounded := by decide
  busyMaxRoundsBounded := busyMaxRoundsBounded

def exampleAsk (recovery : RouteRecovery) (busyOnly : Bool) : RouteRetryAsk where
  terminal := .temporary 0
  healthRecovery := some recovery
  clientRetryableRateLimit := false
  busyOnly := busyOnly
  requestId := "req-10"

def saturatedRecovery (retryAfter : Duration) : RouteRecovery where
  failureClass := .concurrencySaturated
  retryAfter := retryAfter
  halfOpenRemaining := none

def impatientPolicy : RouteRetryPolicy :=
  examplePolicy (Duration.fromSecs 10) (Duration.fromMillis 500) 10 (by decide) (by decide) (by decide)

def patientPolicy : RouteRetryPolicy :=
  examplePolicy (Duration.fromSecs 5) (Duration.fromSecs 30) 10 (by decide) (by decide) (by decide)

def boundlessPolicy : RouteRetryPolicy :=
  examplePolicy Duration.maximum Duration.maximum u32Max (by decide) (by decide) (by decide)

def busyAsk : RouteRetryAsk := exampleAsk (saturatedRecovery 0) true

def boundlessWait (budget : RouteRetryBudget) : RouteRetryWait where
  nextRound := 1
  requiredDelay := halfOpenBusyRetry
  jitter := Duration.fromMillis 12
  sleepFor := Duration.fromMillis 1012
  remainingAfter := Duration.maximum - budget.waited - Duration.fromMillis 1012
  alignment := false
  alignmentTruncated := false
  busy := true

theorem boundless_busy_granted {budget : RouteRetryBudget} (first : budget.currentRound = 1)
    (time : budget.waited + Duration.fromMillis 1012 ≤ Duration.maximum) :
    (boundlessPolicy.decideWithReason exampleSha256 budget busyAsk).1 =
      some (boundlessWait budget) := by
  have allowed : ¬ saturatingSucc32 budget.busyRounds > u32Max := by
    unfold saturatingSucc32
    unfold u32Max
    omega
  have jitter : deterministicJitter exampleSha256 "req-10" 1 = Duration.fromMillis 12 := by
    decide +kernel
  have slept : Duration.checkedAdd halfOpenBusyRetry (Duration.fromMillis 12) =
      some (Duration.fromMillis 1012) := by decide +kernel
  have fits : ¬ Duration.fromMillis 1012 > Duration.maximum - budget.waited :=
    Nat.not_lt.mpr (Nat.le_sub_of_add_le (Nat.add_comm _ _ ▸ time))
  simp [RouteRetryPolicy.decideWithReason, RouteRetryPolicy.decideBusy,
    RouteRetryPolicy.busyWait, boundlessPolicy, examplePolicy, busyAsk, exampleAsk, first, jitter, slept, fits, allowed, boundlessWait]

theorem boundless_busy_count (count : Nat) {budget : RouteRetryBudget}
    (first : budget.currentRound = 1)
    (time : budget.waited + count * Duration.fromMillis 1012 ≤ Duration.maximum) :
    (boundlessPolicy.grants exampleSha256 budget (List.replicate count busyAsk)).countP
      (fun grant => grant.wait.busy) = count := by
  induction count generalizing budget with
  | zero => rfl
  | succ count ih =>
    have once : budget.waited + Duration.fromMillis 1012 ≤ Duration.maximum := by
      refine Nat.le_trans (Nat.add_le_add_left ?_ _) time
      exact Nat.le_mul_of_pos_left _ (Nat.succ_pos count)
    have later : (budget.recordWait (boundlessWait budget)).waited =
        budget.waited + Duration.fromMillis 1012 := by
      have added : Duration.checkedAdd budget.waited (Duration.fromMillis 1012) =
          some (budget.waited + Duration.fromMillis 1012) := if_pos once
      simp only [RouteRetryBudget.recordWait, boundlessWait, added, Option.getD_some]
    have same : (budget.recordWait (boundlessWait budget)).currentRound = 1 := by
      simp only [RouteRetryBudget.recordWait, boundlessWait, if_true, first]
    have left : (budget.recordWait (boundlessWait budget)).waited +
        count * Duration.fromMillis 1012 ≤ Duration.maximum := by
      rw [later, Nat.add_assoc, Nat.add_comm (Duration.fromMillis 1012), ← Nat.succ_mul]
      exact time
    have rest := ih same left
    rw [List.replicate_succ, RouteRetryPolicy.grants, boundless_busy_granted first once]
    dsimp only
    rw [List.countP_cons, rest]
    rfl

/-- A busy wait goes past the limit of a concurrency recovery; a wait of no length is granted when
earlier concurrency recoveries have used up the ordinary limit; and a busy counter whose cap is its
largest value never exceeds it. -/
theorem waits_beyond_limits :
    (∃ grant ∈ impatientPolicy.grants exampleSha256 {} [busyAsk],
        grant.ask.concurrencyRecovery = true ∧
          impatientPolicy.concurrencyMaxWait < grant.after.waited) ∧
      (∃ grant ∈ patientPolicy.grants exampleSha256 {}
          [exampleAsk (saturatedRecovery (Duration.fromSecs 20)) false,
            exampleAsk ⟨.transientServer, 0, none⟩ false],
        grant.ask.concurrencyRecovery = false ∧ patientPolicy.maxWait < grant.after.waited) ∧
      boundlessPolicy.busyMaxRounds < (boundlessPolicy.grants exampleSha256 {}
        (List.replicate (2 ^ 32) busyAsk)).countP fun grant => grant.wait.busy := by
  refine ⟨by decide +kernel, by decide +kernel, ?_⟩
  rw [boundless_busy_count (2 ^ 32) rfl (by decide +kernel)]
  exact (by decide : u32Max < 2 ^ 32)

end ChatGateway
