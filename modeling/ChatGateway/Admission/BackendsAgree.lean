import ChatGateway.Admission.LocalBackend
import ChatGateway.Admission.RedisBook

set_option autoImplicit false

/-!
# Both backends admit alike

The same calls go to the local backend and to Redis, one at a time. Beside them the book is kept,
which each of the two follows.
-/

namespace ChatGateway

structure AdmissionSetup where
  settings : AdmissionSettings
  identity : StableIdentity
  localDraws : UuidDraws
  redisDraws : UuidDraws

structure AdmissionBackends where
  inProcess : LocalBackend := {}
  redis : RedisBackend := {}
  book : AdmissionBook := {}

structure DownstreamConfig.HasLimits (downstream : DownstreamConfig) : Prop where
  quota : ∀ requests, downstream.requestQuotaRequests = some requests → 1 ≤ requests
  width : downstream.maxConcurrency < 2 ^ 32
  groupWidth : ∀ group ∈ downstream.modelConcurrencyGroups, group.maxConcurrency < 2 ^ 32

def AdmissionOp.HasLimits : AdmissionOp → Prop
  | .admitOne downstream _ => downstream.HasLimits
  | _ => True

def AdmissionOp.IsLimited : AdmissionOp → Prop
  | .admitOne downstream _ => downstream.rateLimitEnabled ∧ 1 ≤ downstream.perMinuteLimit
  | _ => True

namespace AdmissionBackends

variable (setup : AdmissionSetup) (state : AdmissionBackends)

def apply (step : AdmissionStep) : AdmissionBackends where
  inProcess := state.inProcess.apply setup.settings setup.localDraws step
  redis := state.redis.apply setup.settings setup.identity setup.redisDraws step
  book := state.book.apply setup.settings setup.redisDraws step

abbrev visits : List AdmissionStep → List (AdmissionBackends × AdmissionStep) :=
  Visits.visits (apply setup) {}

structure Unexpired (now : Nat) : Prop where
  inProcess : state.inProcess.runtime.Unlapsed (1000 * now)
  redis : state.redis.Unexpired (1000 * (now : Int))

def SameAnswer (step : AdmissionStep) : Prop :=
  match step.op with
  | .admitOne downstream model =>
    ∃ verdict,
      state.inProcess.verdict setup.settings setup.localDraws step.time downstream model = verdict ∧
      verdict.Answers (rejectionOf (state.inProcess.reserveAdmission setup.settings setup.localDraws
        step.time downstream model).1) ∧
      state.redis.verdict setup.settings setup.identity setup.redisDraws step.time downstream model =
        verdict ∧
      verdict.Answers (rejectionOf (state.redis.reserveAdmission setup.settings setup.identity
        setup.redisDraws step.time downstream model).1)
  | _ => True

/-- What the agreement rests on: keys that ask on a limited scope are billed by cost, a cost is
booked when it is made and under a new id, and the counts stay inside their types. -/
structure Meets (step : AdmissionStep) : Prop where
  priced : ∀ downstream model, step.op = .admitOne downstream model → downstream.rateLimitEnabled →
    (setup.settings.config.costScopeFor downstream.id).isLimited → downstream.hasCostPricing
  booked : ∀ log, step.op = .record log → RedisBackend.RecordsOnce setup.settings.config state.book
    step.time (log.stamped (setup.redisDraws.log state.book.issued.length) step.time)
  requestRange : ∀ downstreamId, (state.book.requests downstreamId).length < 2 ^ 32
  costRange : ∀ scopeId, state.book.spentToday step.time scopeId < 2 ^ 53

structure Keeps (clock : Nat) : Prop where
  sound : state.book.Sound setup.settings.config clock
  inProcess : state.inProcess.Keeps setup.localDraws clock state.book
  redis : state.redis.Keeps setup.identity setup.redisDraws clock state.book

variable {setup state}

theorem Keeps.later {early late : Nat} (keeps : state.Keeps setup early) (reached : early ≤ late) :
    state.Keeps setup late :=
  ⟨keeps.sound.later reached, keeps.inProcess.later reached, keeps.redis.later reached⟩

theorem Keeps.empty : Keeps setup {} 0 :=
  ⟨AdmissionBook.Sound.empty, LocalBackend.Keeps.empty, RedisBackend.Keeps.empty⟩

theorem Keeps.admitsLocally {time : Nat} {downstream : DownstreamConfig} {model : Text}
    (keeps : state.Keeps setup time) (limits : downstream.HasLimits)
    (unexpired : state.Unexpired time) (meets : state.Meets setup ⟨time, .admitOne downstream model⟩) :
    state.inProcess.AdmitsBy setup.settings setup.localDraws state.book time downstream model :=
  keeps.inProcess.admitsBy keeps.sound ⟨limits.quota, meets.priced downstream model rfl⟩
    (fun scopeId => (meets.costRange scopeId).trans (by decide)) unexpired.inProcess

theorem Keeps.admitsOverRedis {time : Nat} {downstream : DownstreamConfig} {model : Text}
    (keeps : state.Keeps setup time) (limits : downstream.HasLimits)
    (unexpired : state.Unexpired time) (meets : state.Meets setup ⟨time, .admitOne downstream model⟩) :
    state.redis.AdmitsBy setup.settings setup.identity setup.redisDraws state.book time downstream
      model :=
  keeps.redis.admitsBy keeps.sound limits.quota limits.width limits.groupWidth
    (meets.requestRange downstream.id) unexpired.redis

theorem Keeps.sameAnswer {step : AdmissionStep} (keeps : state.Keeps setup step.time)
    (limits : step.op.HasLimits) (unexpired : state.Unexpired step.time)
    (meets : state.Meets setup step) : state.SameAnswer setup step := by
  obtain ⟨time, op⟩ := step
  cases op with
  | admitOne downstream model =>
    have inProcess := keeps.admitsLocally limits unexpired meets
    have overRedis := keeps.admitsOverRedis limits unexpired meets
    exact ⟨_, inProcess.verdict, inProcess.answer, overRedis.verdict, overRedis.answer⟩
  | _ => trivial

theorem Keeps.apply {step : AdmissionStep} (keeps : state.Keeps setup step.time)
    (limits : step.op.HasLimits) (unexpired : state.Unexpired step.time)
    (meets : state.Meets setup step) : (state.apply setup step).Keeps setup step.time := by
  have sound : (state.apply setup step).book.Sound setup.settings.config step.time :=
    keeps.sound.apply
  obtain ⟨time, op⟩ := step
  cases op with
  | admitOne downstream model =>
    exact ⟨sound, (keeps.admitsLocally limits unexpired meets).after,
      (keeps.admitsOverRedis limits unexpired meets).after⟩
  | rollback admitted =>
    exact ⟨sound, keeps.inProcess.rollback admitted, keeps.redis.rollback unexpired.redis admitted⟩
  | release admitted =>
    exact ⟨sound, keeps.inProcess.release keeps.sound admitted,
      keeps.redis.release keeps.sound unexpired.redis admitted⟩
  | record log =>
    exact ⟨sound, keeps.inProcess.record log _,
      keeps.redis.record unexpired.redis (meets.booked log rfl)⟩

end AdmissionBackends

namespace AdmissionBackends

def countedIds : UuidDraws where
  event step := String.ofList (List.replicate step 'e')
  lease step := String.ofList (List.replicate step 'l')
  log _ := "drawn"
  event_injective left right same := by
    simpa using congrArg (fun id => id.toList.length) same
  lease_injective left right same := by
    simpa using congrArg (fun id => id.toList.length) same

def budgetSetup : AdmissionSetup where
  settings := ⟨BudgetState.sharedBudget, false, 600⟩
  identity := ⟨id, Function.injective_id⟩
  localDraws := countedIds
  redisDraws := countedIds

def spendBudget : AdmissionStep :=
  ⟨1000, .record ⟨"log", "priced", "request", 200, 0, 0, some 100, 1000⟩⟩

def askAfter (downstream : DownstreamConfig) : AdmissionStep :=
  ⟨1100, .admitOne downstream "model".toList⟩

def afterBudget : AdmissionBackends :=
  apply budgetSetup {} spendBudget

theorem visits_askAfter (downstream : DownstreamConfig) :
    visits budgetSetup [spendBudget, askAfter downstream] =
      [({}, spendBudget), (afterBudget, askAfter downstream)] :=
  rfl

theorem afterBudget_redis :
    afterBudget.redis = { ({} : RedisBackend) with
      tokens := Function.update (fun _ => .absent) "user" (afterBudget.redis.tokens "user")
      tokenValues := Function.update (fun _ => .absent) "user" (afterBudget.redis.tokenValues "user")
      issued := [none] } := by
  rfl

theorem live_of_later {V : Type} {key : Volatile String V} {now : Int}
    (later : key.expiresAt.any (· < now) = false) : key.live now = key :=
  if_neg (by rw [later]; exact Bool.false_ne_true)

theorem unexpired_start (now : Nat) : Unexpired {} now where
  inProcess _ _ _ found := by cases found
  redis :=
    { requests := fun _ => rfl
      tokens := fun _ => rfl
      tokenValues := fun _ => rfl
      leases := fun _ => rfl
      leasesAll := fun _ => rfl
      groupLease := fun _ _ _ found => by cases found
      anyLease := fun _ _ _ found => by cases found }

theorem afterBudget_unexpired : afterBudget.Unexpired 1100 where
  inProcess key leaseId expiresAt found := by cases found
  redis :=
    { unexpired_start 1100 |>.redis with
      tokens := by
        intro identity
        by_cases own : identity = "user"
        · subst own
          exact live_of_later (by decide +kernel)
        · rw [afterBudget_redis]
          dsimp only
          rw [Function.update_of_ne own]
          rfl
      tokenValues := by
        intro identity
        by_cases own : identity = "user"
        · subst own
          exact live_of_later (by decide +kernel)
        · rw [afterBudget_redis]
          dsimp only
          rw [Function.update_of_ne own]
          rfl }

theorem ask_unexpired (downstream : DownstreamConfig) :
    ∀ visit ∈ visits budgetSetup [spendBudget, askAfter downstream],
      visit.1.Unexpired visit.2.time := by
  intro visit visited
  rw [visits_askAfter, List.mem_pair] at visited
  rcases visited with rfl | rfl
  · exact unexpired_start 1000
  · exact afterBudget_unexpired

theorem keys_hasLimits {downstream : DownstreamConfig}
    (known : downstream = BudgetState.pricedKey ∨ downstream = BudgetState.plainKey) :
    ∀ step ∈ [spendBudget, askAfter downstream], step.op.HasLimits ∧ step.op.IsLimited := by
  have priced : BudgetState.pricedKey.HasLimits :=
    ⟨(fun _ asked => by cases asked), by decide, (fun _ group => by cases group)⟩
  have plain : BudgetState.plainKey.HasLimits :=
    ⟨(fun _ asked => by cases asked), by decide, (fun _ group => by cases group)⟩
  intro step member
  rcases List.mem_pair.1 member with rfl | rfl
  · exact ⟨trivial, trivial⟩
  · rcases known with rfl | rfl
    · exact ⟨priced, by decide, by decide⟩
    · exact ⟨plain, by decide, by decide⟩

theorem afterBudget_book :
    afterBudget.book = { ({} : AdmissionBook) with
      issued := [none]
      costs := Function.update (fun _ => []) "user" [⟨"log", 1000, 100⟩] } :=
  rfl

theorem spend_meets : Meets budgetSetup {} spendBudget where
  priced _ _ asked := by cases asked
  booked := by
    rintro log ⟨⟩ scopeId cost booked
    have known : bookedCost budgetSetup.settings.config
        ⟨"log", "priced", "request", 200, 0, 0, some 100, 1000⟩ =
          some ("user", ⟨"log", 1000, 100⟩) := by
      decide +kernel
    obtain ⟨rfl, rfl⟩ := Prod.mk.inj (Option.some.inj (known.symm.trans booked))
    exact ⟨rfl, fun earlier listed => by cases listed⟩
  requestRange _ := Nat.two_pow_pos 32
  costRange _ := Nat.two_pow_pos 53

theorem ask_meets : afterBudget.Meets budgetSetup (askAfter BudgetState.pricedKey) where
  priced := by
    rintro downstream model ⟨⟩ _ _
    decide
  booked _ asked := by cases asked
  requestRange _ := Nat.two_pow_pos 32
  costRange scopeId := by
    rw [afterBudget_book, AdmissionBook.spentToday]
    by_cases own : scopeId = "user"
    · subst own
      decide +kernel
    · dsimp only
      rw [Function.update_of_ne own]
      exact Nat.two_pow_pos 53

end AdmissionBackends

end ChatGateway
