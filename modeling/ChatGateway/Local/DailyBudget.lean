import ChatGateway.Local.QuotaWindows
import ChatGateway.Shared.Visits
import Mathlib.Data.List.Infix

set_option autoImplicit false

/-!
# The shared daily budget

The keys of a user share one cost window. Admissions prune it and compare its sum with the limit,
and usage logs are booked on it when requests end.
-/

namespace ChatGateway

section Windows

variable {events kept : List DownstreamTokenEvent} {start later : Nat}

theorem filter_dropWhile_of_le (earlier : start ≤ later) :
    (events.dropWhile fun event => event.createdAt < start).filter
        (fun event => later ≤ event.createdAt) =
      events.filter fun event => later ≤ event.createdAt := by
  induction events with
  | nil => rfl
  | cons event rest ih =>
    by_cases old : event.createdAt < start
    · have gone : ¬later ≤ event.createdAt := by omega
      simp [old, gone, ih]
    · simp [old]

theorem tokensFrom_le_of_sublist (inside : kept.Sublist events) :
    tokensFrom start kept ≤ tokensFrom start events :=
  ((inside.filter _).map _).sum_le_sum fun _ _ => Nat.zero_le _

theorem tokensFrom_le_sum : tokensFrom start events ≤ (events.map DownstreamTokenEvent.tokens).sum :=
  (List.filter_sublist.map _).sum_le_sum fun _ _ => Nat.zero_le _

end Windows

theorem LedgerConfig.dailyLimit_positive (config : LedgerConfig) (downstreamId : String) :
    (config.costScopeFor downstreamId).dailyLimitCents.filter (0 < ·) =
      (config.costScopeFor downstreamId).dailyLimitCents := by
  simp [costScopeFor, resolveCostScope, Option.filter_filter]

theorem CostScope.isLimited_iff (config : LedgerConfig) (downstreamId : String) :
    (config.costScopeFor downstreamId).isLimited = true ↔
      ∃ limit, (config.costScopeFor downstreamId).dailyLimitCents = some limit := by
  rw [CostScope.isLimited, ← config.dailyLimit_positive]
  cases (config.costScopeFor downstreamId).dailyLimitCents <;> simp [Option.filter]
  split <;> simp_all

namespace DownstreamWindows

variable (windows : DownstreamWindows) (config : LedgerConfig) (downstream : DownstreamConfig)
  (now : Nat) (eventId : String)

structure Undecided : Prop where
  tokens : (windows.reserveRequest config downstream now eventId).2.tokens = windows.tokens
  reply : ∀ retryAfter limit used, (windows.reserveRequest config downstream now eventId).1 ≠
    .error (.dailyCostQuotaExceeded retryAfter limit used)
  unlimited : ∀ reservation, (windows.reserveRequest config downstream now eventId).1 =
    .ok reservation → downstream.rateLimitEnabled →
      (config.costScopeFor downstream.id).dailyLimitCents = none

structure Decided (limit : Nat) : Prop where
  enabled : downstream.rateLimitEnabled
  scope : (config.costScopeFor downstream.id).dailyLimitCents = some limit
  tokens : (windows.reserveRequest config downstream now eventId).2.tokens =
    windows.tokens.insert (config.costScopeFor downstream.id).scopeId
      (windows.prunedTokens downstream (config.costScopeFor downstream.id) now)
  reply :
    (costRejection now limit
        (windows.prunedTokens downstream (config.costScopeFor downstream.id) now) = none ∧
      ∃ reservation, (windows.reserveRequest config downstream now eventId).1 = .ok reservation) ∨
    ∃ rejection, costRejection now limit
        (windows.prunedTokens downstream (config.costScopeFor downstream.id) now) = some rejection ∧
      (windows.reserveRequest config downstream now eventId).1 = .error rejection

theorem requestRejection_other {window : List DownstreamRequestEvent}
    {rejection : DownstreamAdmissionRejection}
    (rejected : (minuteRejection downstream now window <|>
      requestQuotaRejection downstream now window) = some rejection) (retryAfter limit used : Nat) :
    rejection ≠ .dailyCostQuotaExceeded retryAfter limit used := by
  rintro rfl
  cases minute : minuteRejection downstream now window with
  | some first =>
    rw [minute] at rejected
    obtain rfl := Option.some.inj rejected
    rw [minuteRejection] at minute
    split at minute <;> cases minute
  | none =>
    rw [minute] at rejected
    have quota : requestQuotaRejection downstream now window =
        some (.dailyCostQuotaExceeded retryAfter limit used) := rejected
    rw [requestQuotaRejection] at quota
    split at quota
    next => cases quota
    next =>
      split at quota
      next => cases quota
      next =>
        dsimp only at quota
        split at quota <;> cases quota

theorem reserveRequest_cases :
    windows.Undecided config downstream now eventId ∨
      ∃ limit, windows.Decided config downstream now eventId limit := by
  cases enabled : downstream.rateLimitEnabled with
  | false =>
    have outcome : windows.reserveRequest config downstream now eventId =
        (.ok ⟨downstream.id, none⟩, windows) := by
      rw [reserveRequest, enabled]
      rfl
    refine .inl ⟨by rw [outcome], ?_, ?_⟩
    · intro _ _ _ failed
      rw [outcome] at failed
      cases failed
    · intro _ _ limited
      rw [enabled] at limited
      cases limited
  | true =>
    cases first : minuteRejection downstream now (windows.prunedRequests downstream now) <|>
        requestQuotaRejection downstream now (windows.prunedRequests downstream now) with
    | some rejection =>
      have outcome : windows.reserveRequest config downstream now eventId = (.error rejection,
          windows.setRequests downstream.id (windows.prunedRequests downstream now)) := by
        simp only [reserveRequest, enabled, first]
        rfl
      refine .inl ⟨by rw [outcome]; rfl, ?_, ?_⟩
      · intro retryAfter limit used failed
        rw [outcome] at failed
        exact requestRejection_other downstream now first retryAfter limit used
          (Except.error.inj failed)
      · intro _ admitted
        rw [outcome] at admitted
        cases admitted
    | none =>
      cases limited : (config.costScopeFor downstream.id).dailyLimitCents with
      | none =>
        have outcome : windows.reserveRequest config downstream now eventId =
            (windows.setRequests downstream.id (windows.prunedRequests downstream now)).admitRequest
              downstream now eventId (windows.prunedRequests downstream now) := by
          simp only [reserveRequest, enabled, first, limited]
          rfl
        refine .inl ⟨by rw [outcome]; rfl, ?_, fun _ _ _ => limited⟩
        intro _ _ _ failed
        rw [outcome] at failed
        cases failed
      | some limit =>
        have positive := config.dailyLimit_positive downstream.id
        rw [limited] at positive
        refine .inr ⟨limit, ?_⟩
        cases cost : costRejection now limit
            (windows.prunedTokens downstream (config.costScopeFor downstream.id) now) with
        | some rejection =>
          have outcome : windows.reserveRequest config downstream now eventId = (.error rejection,
              (windows.setRequests downstream.id (windows.prunedRequests downstream now)).setTokens
                (config.costScopeFor downstream.id).scopeId
                (windows.prunedTokens downstream (config.costScopeFor downstream.id) now)) := by
            have same : (windows.setRequests downstream.id
                (windows.prunedRequests downstream now)).prunedTokens downstream
                  (config.costScopeFor downstream.id) now =
                windows.prunedTokens downstream (config.costScopeFor downstream.id) now := rfl
            simp only [reserveRequest, enabled, first, limited, positive, same, cost]
            rfl
          exact ⟨enabled, limited, by rw [outcome]; rfl, .inr ⟨rejection, cost, by rw [outcome]⟩⟩
        | none =>
          have outcome : windows.reserveRequest config downstream now eventId =
              ((windows.setRequests downstream.id (windows.prunedRequests downstream now)).setTokens
                (config.costScopeFor downstream.id).scopeId
                (windows.prunedTokens downstream (config.costScopeFor downstream.id)
                  now)).admitRequest downstream now eventId
                    (windows.prunedRequests downstream now) := by
            have same : (windows.setRequests downstream.id
                (windows.prunedRequests downstream now)).prunedTokens downstream
                  (config.costScopeFor downstream.id) now =
                windows.prunedTokens downstream (config.costScopeFor downstream.id) now := rfl
            simp only [reserveRequest, enabled, first, limited, positive, same, cost]
            rfl
          exact ⟨enabled, limited, by rw [outcome]; rfl, .inl ⟨cost, _, by rw [outcome]; rfl⟩⟩

end DownstreamWindows

structure BudgetState where
  windows : DownstreamWindows := {}
  recorded : List (String × DownstreamTokenEvent) := []

inductive BudgetOp where
  | admitOne (downstream : DownstreamConfig) (eventId : String)
  | append (log : UsageLog) (freshId : String)

structure BudgetStep where
  time : Nat
  op : BudgetOp

def BudgetState.recordedFor (state : BudgetState) (scopeId : String) : List DownstreamTokenEvent :=
  (state.recorded.filter fun entry => entry.1 = scopeId).map Prod.snd

def dayStart (now : Nat) : Nat :=
  windowStart now downstreamDailyTokenWindowSeconds

namespace BudgetState

variable (config : LedgerConfig)

def apply (state : BudgetState) (step : BudgetStep) : BudgetState :=
  match step.op with
  | .admitOne downstream eventId =>
    { state with windows := (state.windows.reserveRequest config downstream step.time eventId).2 }
  | .append log freshId =>
    let log := log.stamped freshId step.time
    { windows := state.windows.recordUsageEvent config log
      recorded := state.recorded ++ (usageEvent config log).toList }

abbrev visits : List BudgetStep → List (BudgetState × BudgetStep) :=
  Visits.visits (apply config) {}

/-! ### What the budget promises -/

def AdmitsBelowLimit (state : BudgetState) (step : BudgetStep) : Prop :=
  match step.op with
  | .admitOne downstream eventId =>
    ∀ reservation limit,
      (state.windows.reserveRequest config downstream step.time eventId).1 = .ok reservation →
      (config.costScopeFor downstream.id).dailyLimitCents = some limit →
        tokensFrom (dayStart step.time)
          (state.recordedFor (config.costScopeFor downstream.id).scopeId) < limit
  | .append _ _ => True

def KeepsLastDay (state : BudgetState) (step : BudgetStep) : Prop :=
  match step.op with
  | .admitOne _ _ => ∀ scopeId,
      ((state.apply config step).windows.tokenWindow scopeId).filter
          (fun event => dayStart step.time ≤ event.createdAt) =
        (state.windows.tokenWindow scopeId).filter fun event => dayStart step.time ≤ event.createdAt
  | .append _ _ => True

/-- A rejected request is not rejected for cost again after the time it is told, whatever other
requests come in between. -/
def WaitsLongEnough (state : BudgetState) (step : BudgetStep) : Prop :=
  match step.op with
  | .admitOne downstream eventId => ∀ retryAfter limit used,
      (state.windows.reserveRequest config downstream step.time eventId).1 =
        .error (.dailyCostQuotaExceeded retryAfter limit used) →
      ∀ between : List BudgetStep, (∀ other ∈ between, ∃ key id, other.op = .admitOne key id) →
      ∀ time, step.time + retryAfter ≤ time → ∀ newId retryAfter limit used,
        ((between.foldl (apply config) (state.apply config step)).windows.reserveRequest config
          downstream time newId).1 ≠ .error (.dailyCostQuotaExceeded retryAfter limit used)
  | .append _ _ => True

/-! ### What it rests on -/

def Priced (step : BudgetStep) : Prop :=
  match step.op with
  | .admitOne downstream _ => (config.costScopeFor downstream.id).isLimited →
      downstream.rateLimitEnabled ∧ downstream.hasCostPricing
  | .append _ _ => True

def InOrder (state : BudgetState) (step : BudgetStep) : Prop :=
  match step.op with
  | .admitOne _ _ => True
  | .append log freshId => ∀ scopeId event,
      usageEvent config (log.stamped freshId step.time) = some (scopeId, event) →
        ∀ earlier ∈ state.recordedFor scopeId, earlier.createdAt ≤ event.createdAt

structure InRange (state : BudgetState) : Prop where
  cost : ∀ scopeId, ((state.recordedFor scopeId).map DownstreamTokenEvent.tokens).sum < 2 ^ 64 - 1
  time : ∀ scopeId, ∀ event ∈ state.recordedFor scopeId,
    event.createdAt + downstreamDailyTokenWindowSeconds < 2 ^ 64

end BudgetState

namespace BudgetState

variable {config : LedgerConfig} {state : BudgetState}

theorem recordedFor_append (log : UsageLog) (scopeId : String) :
    ((state.recorded ++ (usageEvent config log).toList).filter
        (fun entry => entry.1 = scopeId)).map Prod.snd =
      state.recordedFor scopeId ++
        (((usageEvent config log).filter fun entry => entry.1 = scopeId).map Prod.snd).toList := by
  rw [recordedFor, List.filter_append, List.map_append]
  congr 1
  cases usageEvent config log with
  | none => rfl
  | some entry => by_cases own : entry.1 = scopeId <;> simp [own, Option.filter]

theorem tokenWindow_record (windows : DownstreamWindows) (log : UsageLog) (scopeId : String) :
    (windows.recordUsageEvent config log).tokenWindow scopeId =
      windows.tokenWindow scopeId ++
        (((usageEvent config log).filter fun entry => entry.1 = scopeId).map Prod.snd).toList := by
  rw [DownstreamWindows.recordUsageEvent]
  cases usageEvent config log with
  | none => simp
  | some entry =>
    obtain ⟨owner, event⟩ := entry
    simp only [DownstreamWindows.tokenWindow, DownstreamWindows.setTokens, Table.lookup_insert_eq]
    by_cases own : scopeId = owner
    · subst own
      simp [Option.filter]
    · simp [own, Ne.symm own, Option.filter]

theorem tokenWindow_admitOne (windows : DownstreamWindows) (downstream : DownstreamConfig)
    (now : Nat) (eventId scopeId : String) :
    (windows.reserveRequest config downstream now eventId).2.tokenWindow scopeId =
        windows.tokenWindow scopeId ∨
      (downstream.rateLimitEnabled ∧
        (config.costScopeFor downstream.id).isLimited ∧
        scopeId = (config.costScopeFor downstream.id).scopeId ∧
        (windows.reserveRequest config downstream now eventId).2.tokenWindow scopeId =
          windows.prunedTokens downstream (config.costScopeFor downstream.id) now) := by
  rcases windows.reserveRequest_cases config downstream now eventId with same | ⟨limit, decided⟩
  · rw [DownstreamWindows.tokenWindow, same.tokens]
    exact .inl rfl
  · have limited := (CostScope.isLimited_iff config downstream.id).2 ⟨limit, decided.scope⟩
    rw [DownstreamWindows.tokenWindow, decided.tokens, Table.lookup_insert_eq]
    by_cases own : scopeId = (config.costScopeFor downstream.id).scopeId
    · rw [if_pos own]
      exact .inr ⟨decided.enabled, limited, own, rfl⟩
    · rw [if_neg own]
      exact .inl rfl

theorem tokenWindow_admit_suffix (windows : DownstreamWindows) (downstream : DownstreamConfig)
    (now : Nat) (eventId scopeId : String) :
    (windows.reserveRequest config downstream now eventId).2.tokenWindow scopeId <:+
      windows.tokenWindow scopeId := by
  rcases @tokenWindow_admitOne config windows downstream now eventId scopeId with
    same | ⟨-, -, rfl, pruned⟩
  · rw [same]
  · rw [pruned]
    exact List.dropWhile_suffix _

theorem filter_prunedTokens {windows : DownstreamWindows} {downstream : DownstreamConfig}
    {now later : Nat} (priced : downstream.hasCostPricing)
    (limited : (config.costScopeFor downstream.id).isLimited) (reached : now ≤ later) :
    (windows.prunedTokens downstream (config.costScopeFor downstream.id) now).filter
        (fun event => dayStart later ≤ event.createdAt) =
      (windows.tokenWindow (config.costScopeFor downstream.id).scopeId).filter
        fun event => dayStart later ≤ event.createdAt := by
  have retention : downstreamTokenRetentionSeconds downstream (config.costScopeFor downstream.id) =
      downstreamDailyTokenWindowSeconds := by
    simp [downstreamTokenRetentionSeconds, priced, limited]
  rw [DownstreamWindows.prunedTokens, retention]
  refine filter_dropWhile_of_le ?_
  simp only [dayStart, windowStart]
  omega

def Recorded (state : BudgetState) : Prop :=
  ∀ scopeId, state.windows.tokenWindow scopeId <:+ state.recordedFor scopeId

def Remembers (now : Nat) (state : BudgetState) : Prop :=
  ∀ later, now ≤ later → ∀ scopeId,
    (state.windows.tokenWindow scopeId).filter (fun event => dayStart later ≤ event.createdAt) =
      (state.recordedFor scopeId).filter fun event => dayStart later ≤ event.createdAt

def Sorted (state : BudgetState) : Prop :=
  ∀ scopeId, (state.recordedFor scopeId).Pairwise fun left right => left.createdAt ≤ right.createdAt

theorem Recorded.apply (recorded : state.Recorded) (step : BudgetStep) :
    (state.apply config step).Recorded := by
  intro scopeId
  obtain ⟨time, op⟩ := step
  cases op with
  | admitOne downstream eventId =>
    exact (tokenWindow_admit_suffix state.windows downstream time eventId scopeId).trans
      (recorded scopeId)
  | append log freshId =>
    obtain ⟨gone, split⟩ := recorded scopeId
    refine ⟨gone, ?_⟩
    rw [recordedFor, BudgetState.apply]
    dsimp only
    rw [tokenWindow_record, recordedFor_append, ← split, List.append_assoc]

theorem Remembers.apply {step : BudgetStep} (remembers : state.Remembers step.time)
    (priced : Priced config step) : (state.apply config step).Remembers step.time := by
  intro later reached scopeId
  obtain ⟨time, op⟩ := step
  cases op with
  | admitOne downstream eventId =>
    have before := remembers later reached scopeId
    rcases @tokenWindow_admitOne config state.windows downstream time eventId scopeId with
      same | ⟨-, limited, rfl, pruned⟩
    · simp only [BudgetState.apply]
      rw [same]
      exact before
    · simp only [BudgetState.apply]
      rw [pruned, filter_prunedTokens (priced limited).2 limited reached]
      exact before
  | append log freshId =>
    rw [recordedFor, BudgetState.apply]
    dsimp only
    rw [tokenWindow_record, recordedFor_append, List.filter_append, List.filter_append,
      remembers later reached scopeId]

theorem Sorted.apply {step : BudgetStep} (sorted : state.Sorted) (ordered : state.InOrder config step) :
    (state.apply config step).Sorted := by
  intro scopeId
  obtain ⟨time, op⟩ := step
  cases op with
  | admitOne downstream eventId => exact sorted scopeId
  | append log freshId =>
    rw [recordedFor, BudgetState.apply]
    dsimp only
    rw [recordedFor_append]
    cases booked : usageEvent config (log.stamped freshId time) with
    | none => simpa using sorted scopeId
    | some entry =>
      obtain ⟨owner, event⟩ := entry
      by_cases own : owner = scopeId
      · subst own
        simpa [Option.filter, List.pairwise_append, sorted owner] using ordered owner event booked
      · simpa [Option.filter, own] using sorted scopeId

theorem below_of_free {now limit : Nat} {window : List DownstreamTokenEvent}
    (free : costRejection now limit window = none) :
    tokensFrom (dayStart now) window % 2 ^ 64 < max limit 1 := by
  by_contra reached
  have full : max limit 1 ≤
      tokensFrom (windowStart now downstreamDailyTokenWindowSeconds) window % 2 ^ 64 :=
    Nat.not_lt.1 reached
  simp only [costRejection, full, if_true] at free
  cases free

theorem admits_below_limit {step : BudgetStep} (remembers : state.Remembers step.time)
    (priced : Priced config step) (range : state.InRange) : state.AdmitsBelowLimit config step := by
  obtain ⟨time, op⟩ := step
  cases op with
  | append log freshId => trivial
  | admitOne downstream eventId =>
    intro reservation limit admitted limited
    have bounded := (CostScope.isLimited_iff config downstream.id).2 ⟨limit, limited⟩
    obtain ⟨enabled, billed⟩ := priced bounded
    have positive : 0 < limit := by
      have filtered := config.dailyLimit_positive downstream.id
      rw [limited] at filtered
      by_contra zero
      simp [Option.filter, Nat.le_zero.1 (Nat.not_lt.1 zero)] at filtered
    rcases state.windows.reserveRequest_cases config downstream time eventId with
      undecided | ⟨decidedLimit, decided⟩
    · rw [undecided.unlimited reservation admitted enabled] at limited
      cases limited
    · obtain rfl := Option.some.inj (decided.scope.symm.trans limited)
      rcases decided.reply with ⟨free, -⟩ | ⟨rejection, -, failed⟩
      · set scopeId := (config.costScopeFor downstream.id).scopeId with named
        have window : tokensFrom (dayStart time) (state.windows.prunedTokens downstream
            (config.costScopeFor downstream.id) time) =
              tokensFrom (dayStart time) (state.recordedFor scopeId) := by
          rw [tokensFrom, tokensFrom, filter_prunedTokens billed bounded le_rfl,
            remembers time le_rfl]
        have small : tokensFrom (dayStart time) (state.recordedFor scopeId) < 2 ^ 64 :=
          lt_of_le_of_lt tokensFrom_le_sum ((range.cost scopeId).trans (by omega))
        have used : tokensFrom (dayStart time) (state.windows.prunedTokens downstream
            (config.costScopeFor downstream.id) time) % 2 ^ 64 =
              tokensFrom (dayStart time) (state.recordedFor scopeId) := by
          rw [window, Nat.mod_eq_of_lt small]
        have below := below_of_free free
        rw [used] at below
        rwa [Nat.max_eq_left positive] at below
      · rw [admitted] at failed
        cases failed

theorem keeps_last_day {step : BudgetStep} (priced : Priced config step) :
    state.KeepsLastDay config step := by
  obtain ⟨time, op⟩ := step
  cases op with
  | append log freshId => trivial
  | admitOne downstream eventId =>
    intro scopeId
    rcases @tokenWindow_admitOne config state.windows downstream time eventId scopeId with
      same | ⟨-, limited, rfl, pruned⟩
    · simp only [BudgetState.apply]
      rw [same]
    · simp only [BudgetState.apply]
      rw [pruned, filter_prunedTokens (priced limited).2 limited le_rfl]

end BudgetState

section Waits

variable {now deficit : Nat}

theorem saturatingAdd64_exact {left right : Nat} (inside : left + right < 2 ^ 64) :
    saturatingAdd64 left right = left + right := by
  rw [saturatingAdd64]
  omega

theorem passed_of_waited {created windowSeconds later : Nat} (positive : 0 < windowSeconds)
    (time : created + windowSeconds < 2 ^ 64)
    (waited : now + max (saturatingAdd64 created windowSeconds - now) 1 ≤ later) :
    created < windowStart later windowSeconds := by
  rw [saturatingAdd64_exact time] at waited
  rw [windowStart]
  omega

-- The wait lasts until events from the front that make up the deficit have left the day.
theorem retryAfterFrom_frees {freed : Nat} {events : List DownstreamTokenEvent}
    (sorted : events.Pairwise fun left right => left.createdAt ≤ right.createdAt)
    (times : ∀ event ∈ events,
      event.createdAt + downstreamDailyTokenWindowSeconds < 2 ^ 64)
    (bounded : freed + (events.map DownstreamTokenEvent.tokens).sum < 2 ^ 64) (short : freed < deficit)
    (enough : deficit ≤ freed + (events.map DownstreamTokenEvent.tokens).sum) :
    ∃ gone left, events = gone ++ left ∧ gone ≠ [] ∧
      deficit ≤ freed + (gone.map DownstreamTokenEvent.tokens).sum ∧
      ∀ later, now + retryAfterFrom now downstreamDailyTokenWindowSeconds deficit freed events ≤ later →
        ∀ event ∈ gone, event.createdAt < dayStart later := by
  induction events generalizing freed with
  | nil =>
    simp only [List.map_nil, List.sum_nil] at enough
    omega
  | cons event rest ih =>
    obtain ⟨first, behind⟩ := List.pairwise_cons.1 sorted
    simp only [List.map_cons, List.sum_cons] at bounded enough
    have exact : saturatingAdd64 freed event.tokens = freed + event.tokens :=
      saturatingAdd64_exact (by omega)
    have time := times event List.mem_cons_self
    by_cases reached : deficit ≤ freed + event.tokens
    · refine ⟨[event], rest, rfl, by simp, by simpa using reached, ?_⟩
      intro later waited other known
      obtain rfl := List.mem_singleton.1 known
      rw [retryAfterFrom, exact, if_pos reached] at waited
      exact passed_of_waited (by decide) time waited
    · obtain ⟨gone, left, rfl, nonempty, made, old⟩ := ih behind
        (fun other known => times other (List.mem_cons_of_mem _ known)) (by omega)
        (Nat.not_le.1 reached) (by omega)
      refine ⟨event :: gone, left, rfl, by simp, ?_, ?_⟩
      · simp only [List.map_cons, List.sum_cons]
        omega
      · intro later waited other known
        rw [retryAfterFrom, exact, if_neg reached] at waited
        rcases List.mem_cons.1 known with rfl | known
        · -- the event is no younger than the ones behind it, which have left
          obtain ⟨next, more, rfl⟩ := List.exists_cons_of_ne_nil nonempty
          have younger := first next (by simp)
          exact lt_of_le_of_lt younger (old later waited next (by simp))
        · exact old later waited other known

theorem costRejection_passes {limit retryAfter reported used : Nat}
    {window : List DownstreamTokenEvent}
    (sorted : window.Pairwise fun left right => left.createdAt ≤ right.createdAt)
    (recent : ∀ event ∈ window, dayStart now ≤ event.createdAt)
    (times : ∀ event ∈ window, event.createdAt + downstreamDailyTokenWindowSeconds < 2 ^ 64)
    (bounded : (window.map DownstreamTokenEvent.tokens).sum < 2 ^ 64 - 1)
    (rejected : costRejection now limit window =
      some (.dailyCostQuotaExceeded retryAfter reported used)) {later : Nat}
    (waited : now + retryAfter ≤ later) {kept : List DownstreamTokenEvent}
    (inside : kept.Sublist window) : costRejection later limit kept = none := by
  have whole : tokensFrom (dayStart now) window = (window.map DownstreamTokenEvent.tokens).sum := by
    rw [tokensFrom, List.filter_eq_self.2]
    intro event known
    exact decide_eq_true (recent event known)
  set total := (window.map DownstreamTokenEvent.tokens).sum with summed
  have wraps : ∀ {amount : Nat}, amount ≤ total → amount % 2 ^ 64 = amount :=
    fun less => Nat.mod_eq_of_lt (by omega)
  have deficit : saturatingAdd64 total 1 - max limit 1 = total + 1 - max limit 1 := by
    rw [saturatingAdd64_exact (by omega)]
  by_cases full : max limit 1 ≤ total
  · have reply : costRejection now limit window = some (.dailyCostQuotaExceeded
        (max (downstreamTokenRetryAfterSeconds window now downstreamDailyTokenWindowSeconds
          (total + 1 - max limit 1)) 1) (max limit 1) total) := by
      rw [← deficit]
      have used : tokensFrom (windowStart now downstreamDailyTokenWindowSeconds) window % 2 ^ 64 =
          total :=
        (congrArg (· % 2 ^ 64) whole).trans (wraps le_rfl)
      simp only [costRejection, used, full, if_true]
    rw [reply] at rejected
    obtain ⟨rfl, -, -⟩ := DownstreamAdmissionRejection.dailyCostQuotaExceeded.inj
      (Option.some.inj rejected)
    rw [downstreamTokenRetryAfterSeconds, if_neg (by omega)] at waited
    obtain ⟨gone, left, split, -, made, old⟩ := @retryAfterFrom_frees now (total + 1 - max limit 1) 0
      window sorted times (by omega) (by omega) (by omega)
    have left_only : tokensFrom (dayStart later) window ≤ (left.map DownstreamTokenEvent.tokens).sum := by
      have none_of_gone : gone.filter (fun event => dayStart later ≤ event.createdAt) = [] := by
        rw [List.filter_eq_nil_iff]
        intro event known counted
        have passed := old later (by omega) event known
        exact absurd (of_decide_eq_true counted) (Nat.not_le.2 passed)
      rw [split, tokensFrom, List.filter_append, none_of_gone, List.nil_append]
      exact tokensFrom_le_sum
    have sum : total =
        (gone.map DownstreamTokenEvent.tokens).sum + (left.map DownstreamTokenEvent.tokens).sum := by
      rw [summed, split, List.map_append, List.sum_append]
    have less := @tokensFrom_le_of_sublist window kept (dayStart later) inside
    have below : ¬max limit 1 ≤ tokensFrom (dayStart later) kept % 2 ^ 64 := by
      rw [wraps (by omega)]
      omega
    exact if_neg below
  · have passes : ¬max limit 1 ≤ tokensFrom (dayStart now) window % 2 ^ 64 := by
      rw [whole, wraps le_rfl]
      exact full
    have free : costRejection now limit window = none := if_neg passes
    rw [free] at rejected
    cases rejected

end Waits

namespace BudgetState

variable {config : LedgerConfig} {state : BudgetState}

theorem tokenWindow_between_suffix {between : List BudgetStep}
    (admits : ∀ other ∈ between, ∃ key id, other.op = .admitOne key id) (scopeId : String) :
    (between.foldl (apply config) state).windows.tokenWindow scopeId <:+
      state.windows.tokenWindow scopeId := by
  induction between generalizing state with
  | nil => exact List.suffix_refl _
  | cons step rest ih =>
    obtain ⟨key, id, asked⟩ := admits step List.mem_cons_self
    have first : (state.apply config step).windows.tokenWindow scopeId <:+
        state.windows.tokenWindow scopeId := by
      rw [apply, asked]
      exact tokenWindow_admit_suffix state.windows key step.time id scopeId
    exact (ih fun other known => admits other (List.mem_cons_of_mem _ known)).trans first

theorem recent_of_pruned {windows : DownstreamWindows} {downstream : DownstreamConfig}
    {scope : CostScope} {now : Nat}
    (sorted : (windows.tokenWindow scope.scopeId).Pairwise
      fun left right => left.createdAt ≤ right.createdAt) :
    ∀ event ∈ windows.prunedTokens downstream scope now, dayStart now ≤ event.createdAt := by
  have bound : dayStart now ≤ windowStart now (downstreamTokenRetentionSeconds downstream scope) := by
    rw [downstreamTokenRetentionSeconds]
    split
    next => exact le_rfl
    next =>
      rw [dayStart, windowStart, windowStart]
      exact Nat.sub_le_sub_left (by decide) now
  rw [DownstreamWindows.prunedTokens]
  generalize windowStart now (downstreamTokenRetentionSeconds downstream scope) = start at bound
  generalize windows.tokenWindow scope.scopeId = events at sorted
  induction events with
  | nil =>
    intro event known
    cases known
  | cons first rest ih =>
    obtain ⟨ahead, behind⟩ := List.pairwise_cons.1 sorted
    by_cases old : first.createdAt < start
    · simpa [old] using ih behind
    · have kept : (first :: rest).dropWhile (fun event => decide (event.createdAt < start)) =
          first :: rest := by
        simp [old]
      rw [kept]
      intro event known
      rcases List.mem_cons.1 known with rfl | known
      · omega
      · have younger := ahead event known
        omega

theorem waits_long_enough {step : BudgetStep} (recorded : state.Recorded) (sorted : state.Sorted)
    (range : state.InRange) : state.WaitsLongEnough config step := by
  obtain ⟨time, op⟩ := step
  cases op with
  | append log freshId => trivial
  | admitOne downstream eventId =>
    intro retryAfter reported used failed between admits later waited newId retry limit' used' again
    rcases state.windows.reserveRequest_cases config downstream time eventId with
      undecided | ⟨limit, decided⟩
    · exact undecided.reply retryAfter reported used failed
    · set scope := config.costScopeFor downstream.id with named
      set window := state.windows.prunedTokens downstream scope time with pruned
      have rejected : costRejection time limit window =
          some (.dailyCostQuotaExceeded retryAfter reported used) := by
        rcases decided.reply with ⟨-, reservation, admitted⟩ | ⟨rejection, cost, outcome⟩
        · rw [admitted] at failed
          cases failed
        · rw [outcome] at failed
          rw [cost, Except.error.inj failed]
      have suffix : window <:+ state.recordedFor scope.scopeId :=
        (List.dropWhile_suffix _).trans (recorded scope.scopeId)
      have inOrder := sorted scope.scopeId
      have bounded : (window.map DownstreamTokenEvent.tokens).sum < 2 ^ 64 - 1 :=
        lt_of_le_of_lt ((suffix.sublist.map _).sum_le_sum fun _ _ => Nat.zero_le _)
          (range.cost scope.scopeId)
      have after : (state.apply config ⟨time, .admitOne downstream eventId⟩).windows.tokenWindow
          scope.scopeId = window := by
        simp only [apply, DownstreamWindows.tokenWindow]
        rw [decided.tokens, Table.lookup_insert_eq, if_pos rfl]
        rfl
      rcases (between.foldl (apply config)
          (state.apply config ⟨time, .admitOne downstream eventId⟩)).windows.reserveRequest_cases config
            downstream later newId with undecided | ⟨secondLimit, second⟩
      · exact undecided.reply retry limit' used' again
      · obtain rfl := Option.some.inj (decided.scope.symm.trans second.scope)
        have kept : ((between.foldl (apply config) (state.apply config
            ⟨time, .admitOne downstream eventId⟩)).windows.prunedTokens downstream scope later).Sublist
              window := by
          rw [← after]
          exact ((List.dropWhile_suffix _).trans
            (tokenWindow_between_suffix admits scope.scopeId)).sublist
        have free := costRejection_passes (inOrder.sublist suffix.sublist)
          (recent_of_pruned (inOrder.sublist (recorded scope.scopeId).sublist))
          (fun event known => range.time scope.scopeId event (suffix.mem known)) bounded rejected
          waited kept
        rcases second.reply with ⟨-, reservation, admitted⟩ | ⟨rejection, cost, -⟩
        · rw [admitted] at again
          cases again
        · rw [free] at cost
          cases cost

end BudgetState

/-- Where every key that asks for admission on a limited scope is rate limited and billed by cost,
no request passes a full budget and no cost of the last day is forgotten; where costs are booked in
the order of their times, the announced wait is long enough. -/
theorem daily_budget_kept {config : LedgerConfig} {steps : List BudgetStep}
    (ordered : (steps.map BudgetStep.time).Pairwise (· ≤ ·))
    (range : ∀ visit ∈ BudgetState.visits config steps, visit.1.InRange) :
    ((∀ step ∈ steps, BudgetState.Priced config step) →
      ∀ visit ∈ BudgetState.visits config steps,
        visit.1.AdmitsBelowLimit config visit.2 ∧ visit.1.KeepsLastDay config visit.2) ∧
    ((∀ visit ∈ BudgetState.visits config steps, visit.1.InOrder config visit.2) →
      ∀ visit ∈ BudgetState.visits config steps, visit.1.WaitsLongEnough config visit.2) := by
  have sequence : (0 :: steps.map BudgetStep.time).Pairwise (· ≤ ·) :=
    List.pairwise_cons.2 ⟨fun _ _ => Nat.zero_le _, ordered⟩
  constructor
  · intro priced visit visited
    have remembers := Visits.invariant (fun earlier remembers late reached =>
        remembers late (earlier.trans reached))
      (fun visit visited remembers =>
        BudgetState.Remembers.apply remembers (priced visit.2 (Visits.action_mem visited)))
      sequence (fun _ _ _ => rfl) visit visited
    have asked := priced visit.2 (Visits.action_mem visited)
    exact ⟨BudgetState.admits_below_limit remembers asked (range visit visited),
      BudgetState.keeps_last_day asked⟩
  · intro booked visit visited
    have recorded := @Visits.invariant _ _ (BudgetState.apply config)
      (fun _ state => state.Recorded ∧ state.Sorted) BudgetStep.time 0 {} steps
      (fun _ kept => kept)
      (fun visit visited kept => ⟨kept.1.apply visit.2, kept.2.apply (booked visit visited)⟩)
      sequence ⟨fun _ => List.suffix_refl _, fun _ => List.Pairwise.nil⟩ visit visited
    exact BudgetState.waits_long_enough recorded.1 recorded.2 (range visit visited)

namespace BudgetState

theorem inRange_of_recorded {state : BudgetState}
    (cost : (state.recorded.map fun entry => entry.2.tokens).sum < 2 ^ 64 - 1)
    (time : ∀ entry ∈ state.recorded,
      entry.2.createdAt + downstreamDailyTokenWindowSeconds < 2 ^ 64) : state.InRange where
  cost scopeId := by
    rw [recordedFor, List.map_map]
    exact lt_of_le_of_lt
      ((List.filter_sublist.map _).sum_le_sum fun _ _ => Nat.zero_le _) cost
  time scopeId event known := by
    obtain ⟨entry, kept, rfl⟩ := List.mem_map.1 known
    exact time entry (List.mem_filter.1 kept).1

def pricedKey : DownstreamConfig :=
  { id := "priced", billingMode := "token", outputTokenPricePerMillionCents := some 1 }

def plainKey : DownstreamConfig :=
  { id := "plain" }

def sharedBudget : LedgerConfig where
  downstreams := [pricedKey, plainKey]
  owners := (∅ : Table String String).insert "priced" "user" |>.insert "plain" "user"
  limits := (∅ : Table String Nat).insert "user" 100

def spend : BudgetStep :=
  ⟨1000, .append ⟨"log", "priced", "request", 200, 0, 0, some 100, 1000⟩ "fresh"⟩

def ask (downstream : DownstreamConfig) : BudgetStep :=
  ⟨1100, .admitOne downstream "event"⟩

def afterSpend : BudgetState :=
  apply sharedBudget {} spend

theorem visits_ask (downstream : DownstreamConfig) :
    visits sharedBudget [spend, ask downstream] = [({}, spend), (afterSpend, ask downstream)] :=
  rfl

theorem ask_inRange (downstream : DownstreamConfig) :
    ∀ visit ∈ visits sharedBudget [spend, ask downstream], visit.1.InRange := by
  intro visit visited
  rw [visits_ask, List.mem_pair] at visited
  rcases visited with rfl | rfl
  · exact inRange_of_recorded (by decide) (by decide)
  · have spent : afterSpend.InRange := inRange_of_recorded (by decide +kernel) (by decide +kernel)
    exact spent

end BudgetState

/-- The priced key of the user spends the budget, and is then held back. -/
theorem daily_budget_kept_by_priced_key :
    (BudgetState.afterSpend.AdmitsBelowLimit BudgetState.sharedBudget
          (BudgetState.ask BudgetState.pricedKey) ∧
        BudgetState.afterSpend.KeepsLastDay BudgetState.sharedBudget
          (BudgetState.ask BudgetState.pricedKey)) ∧
      BudgetState.afterSpend.WaitsLongEnough BudgetState.sharedBudget
        (BudgetState.ask BudgetState.pricedKey) := by
  have kept := @daily_budget_kept BudgetState.sharedBudget
    [BudgetState.spend, BudgetState.ask BudgetState.pricedKey] (by decide)
    (BudgetState.ask_inRange _)
  have visited : (BudgetState.afterSpend, BudgetState.ask BudgetState.pricedKey) ∈
      BudgetState.visits BudgetState.sharedBudget
        [BudgetState.spend, BudgetState.ask BudgetState.pricedKey] := by
    rw [BudgetState.visits_ask]
    exact List.mem_cons_of_mem _ List.mem_cons_self
  refine ⟨kept.1 ?_ _ visited, kept.2 ?_ _ visited⟩
  · intro step known
    rcases List.mem_pair.1 known with rfl | rfl
    · trivial
    · exact fun _ => by decide
  · intro other also
    rw [BudgetState.visits_ask, List.mem_pair] at also
    rcases also with rfl | rfl
    · intro scopeId event _ earlier recorded
      cases recorded
    · trivial

/-- The key without a price forgets what the user spent, and is admitted. -/
theorem unpriced_key_forgets_budget :
    ¬∀ config steps, (steps.map BudgetStep.time).Pairwise (· ≤ ·) →
      (∀ visit ∈ BudgetState.visits config steps, visit.1.InRange) →
      ∀ visit ∈ BudgetState.visits config steps, visit.1.AdmitsBelowLimit config visit.2 ∧
        visit.1.KeepsLastDay config visit.2 ∧ visit.1.WaitsLongEnough config visit.2 := by
  intro claimed
  have visited : (BudgetState.afterSpend, BudgetState.ask BudgetState.plainKey) ∈
      BudgetState.visits BudgetState.sharedBudget
        [BudgetState.spend, BudgetState.ask BudgetState.plainKey] := by
    rw [BudgetState.visits_ask]
    simp
  have below := (claimed BudgetState.sharedBudget
    [BudgetState.spend, BudgetState.ask BudgetState.plainKey] (by decide)
    (BudgetState.ask_inRange _) _ visited).1 ⟨"plain", some "event"⟩ 100 (by decide +kernel)
      (by decide +kernel)
  revert below
  decide +kernel

end ChatGateway
