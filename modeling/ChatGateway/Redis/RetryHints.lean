import ChatGateway.Shared.ScoreWindows
import ChatGateway.Redis.ReplayQuotas

set_option autoImplicit false

/-!
# Retry hints of downstream admission

A rejected request is told after how many seconds to come back. The token windows answer with the
expiry of the event that frees enough usage, the request windows with the expiry of their oldest
event, which frees enough only when no later second has to pass as well.
-/

namespace ChatGateway

structure QuotaKeys.Thinned (before after : QuotaKeys) : Prop where
  requests : before.requests.Thinned after.requests
  tokens : before.tokens.Thinned after.tokens
  values : ∀ id, after.tokensOf id = before.tokensOf id ∨ after.tokensOf id = 0

namespace QuotaKeys

theorem Thinned.refl (keys : QuotaKeys) : Thinned keys keys :=
  ⟨.refl _, .refl _, fun _ => Or.inl rfl⟩

theorem Thinned.trans {first second third : QuotaKeys} (earlier : Thinned first second)
    (later : Thinned second third) : Thinned first third where
  requests := earlier.requests.trans later.requests
  tokens := earlier.tokens.trans later.tokens
  values id := by
    rcases later.values id with kept | dropped
    · rw [kept]
      exact earlier.values id
    · exact Or.inr dropped

theorem thinned_live (now : Int) (keys : QuotaKeys) : Thinned keys (keys.live now) where
  requests := Volatile.thinned_live now _
  tokens := Volatile.thinned_live now _
  values id := by
    rcases keys.tokenValues.live_cases now with same | ⟨gone, -⟩
    · exact Or.inl (by rw [tokensOf, live, same, tokensOf])
    · exact Or.inr (by rw [tokensOf, live, gone]; rfl)

theorem thinned_prune (now : Int) (args : QuotaArgs) (keys : QuotaKeys) :
    Thinned keys (keys.prune now args) where
  requests := Volatile.thinned_zremrangebyscore _ _ _
  tokens := Volatile.thinned_zremrangebyscore _ _ _
  values id := by
    simp only [tokensOf, prune, Volatile.update_entries, Table.lookup_retain]
    cases keys.tokenValues.entries.lookup id with
    | none => exact Or.inl rfl
    | some recorded =>
      simp only [Option.filter_some]
      split
      · exact Or.inl rfl
      · exact Or.inr rfl

theorem thinned_tidy (now : Int) (args : QuotaArgs) (keys : QuotaKeys) :
    Thinned keys ((keys.live now).prune now args) :=
  (thinned_live now keys).trans (thinned_prune now args _)

theorem Thinned.unrecorded {before after : QuotaKeys} (thinned : Thinned before after)
    {eventId : String} (missing : before.requests.zscore eventId = none) :
    after.requests.zscore eventId = none := by
  rw [Volatile.zscore, AList.lookup_eq_none] at missing ⊢
  intro present
  exact missing ((thinned.requests.sublist.map Sigma.fst).subset present)

theorem Thinned.tokenUsage_le {before after : QuotaKeys} (thinned : Thinned before after)
    (nonneg : ∀ id, 0 ≤ before.tokensOf id) {start later : Int} (ordered : start ≤ later) :
    after.tokenUsage later ≤ before.tokenUsage start := by
  refine thinned.tokens.weightFrom_le nonneg (fun id => ?_) ordered
  have recorded := nonneg id
  rcases thinned.values id with kept | dropped <;> omega

end QuotaKeys

structure AdmissionMoment where
  clock : Int
  keys : AdmissionKeys

inductive QuietStep : AdmissionMoment → AdmissionMoment → Prop where
  | wait (moment : AdmissionMoment) (clock : Int) (later : moment.clock ≤ clock) :
      QuietStep moment { moment with clock := clock }
  | refused (moment : AdmissionMoment) (quota : QuotaArgs) (lease : LeaseArgs)
      (rejected : (downstreamAdmission moment.clock quota lease moment.keys).1 ≠ .reserved) :
      QuietStep moment
        { moment with keys := (downstreamAdmission moment.clock quota lease moment.keys).2 }
  | replayed (moment : AdmissionMoment) (quota : QuotaArgs) (lease : LeaseArgs)
      (recorded : (((moment.keys.quota.live moment.clock).prune moment.clock quota).requests.zscore
        quota.eventId).isSome) :
      QuietStep moment
        { moment with keys := (downstreamAdmission moment.clock quota lease moment.keys).2 }
  | rolledBack (moment : AdmissionMoment) (eventId : String) :
      QuietStep moment
        { moment with keys := { moment.keys with quota := { moment.keys.quota with
            requests := (moment.keys.quota.requests.live moment.clock).zrem eventId } } }
  | leases (moment : AdmissionMoment) (groupLeases aggregateLeases : ZSet) :
      QuietStep moment
        { moment with keys := { moment.keys with
            groupLeases := groupLeases, aggregateLeases := aggregateLeases } }

abbrev QuietRun : AdmissionMoment → AdmissionMoment → Prop :=
  Relation.ReflTransGen QuietStep

section Runs

variable {now : Int} {quota : QuotaArgs} {lease : LeaseArgs} {keys : AdmissionKeys}

theorem downstreamAdmission_quota
    (quiet : (downstreamAdmission now quota lease keys).1 ≠ .reserved ∨
      (((keys.quota.live now).prune now quota).requests.zscore quota.eventId).isSome) :
    (downstreamAdmission now quota lease keys).2.quota = (keys.quota.live now).prune now quota := by
  revert quiet
  unfold downstreamAdmission
  dsimp only
  split
  next => exact fun _ => rfl
  next missing =>
    split
    next => exact fun _ => rfl
    next =>
      split
      next => exact fun _ => rfl
      next =>
        split
        next => exact fun _ => rfl
        next =>
          intro quiet
          rcases quiet with rejected | recorded
          · exact absurd rfl rejected
          · exact absurd recorded missing

theorem QuietStep.thinned {before after : AdmissionMoment} (step : QuietStep before after) :
    before.keys.quota.Thinned after.keys.quota := by
  cases step with
  | wait => exact .refl _
  | refused quota lease rejected =>
    rw [downstreamAdmission_quota (Or.inl rejected)]
    exact QuotaKeys.thinned_tidy _ _ _
  | replayed quota lease recorded =>
    rw [downstreamAdmission_quota (Or.inr recorded)]
    exact QuotaKeys.thinned_tidy _ _ _
  | rolledBack eventId =>
    exact ⟨(Volatile.thinned_live _ _).trans (Volatile.thinned_zrem _ _), .refl _,
      fun _ => Or.inl rfl⟩
  | leases => exact .refl _

theorem QuietRun.thinned {before after : AdmissionMoment} (run : QuietRun before after) :
    before.keys.quota.Thinned after.keys.quota := by
  induction run with
  | refl => exact .refl _
  | tail _ step ih => exact ih.trans step.thinned

end Runs

def secondsLeft (now windowSeconds score : Int) : Int :=
  -((-(score + windowSeconds * 1000 - now)) / 1000)

theorem retrySeconds_eq {now windowSeconds score : Int}
    (within : now - windowSeconds * 1000 + 1 ≤ score) :
    retrySeconds (score + windowSeconds * 1000 - now) = secondsLeft now windowSeconds score := by
  unfold retrySeconds secondsLeft
  omega

-- A score is still in the window after the seconds of another iff it needs more of them.
theorem in_later_window_iff {now windowSeconds oldest score : Int} :
    now + secondsLeft now windowSeconds oldest * 1000 - windowSeconds * 1000 + 1 ≤ score ↔
      secondsLeft now windowSeconds oldest < secondsLeft now windowSeconds score := by
  unfold secondsLeft
  omega

def outlasting (now windowSeconds : Int) (key : ZSet) : Int :=
  let window := key.zrangebyscore (.closed (now - windowSeconds * 1000 + 1)) .posInf
  match window with
  | [] => 0
  | (_, oldest) :: _ =>
    let left := secondsLeft now windowSeconds oldest
    if key.expiresAt.any (· < now + left * 1000) then 0
    else (window.filter fun entry => left < secondsLeft now windowSeconds entry.2).length

section RequestWindows

variable {now windowSeconds : Int} {key : ZSet}

theorem zcount_nonneg (key : ZSet) (low high : ScoreBound) : 0 ≤ key.zcount low high :=
  Int.natCast_nonneg _

theorem oldest_within {id : String} {oldest : Int} {rest : List (String × Int)}
    (window : key.zrangebyscore (.closed (now - windowSeconds * 1000 + 1)) .posInf =
      (id, oldest) :: rest) : now - windowSeconds * 1000 + 1 ≤ oldest := by
  have first : (id, oldest) ∈ key.zrangebyscore (.closed (now - windowSeconds * 1000 + 1)) .posInf :=
    window ▸ List.mem_cons_self
  simpa using (List.mem_filter.mp first).2

-- The count of the window that starts when the seconds of its oldest event have passed.
theorem zcount_after_oldest {id : String} {oldest : Int} {rest : List (String × Int)}
    (window : key.zrangebyscore (.closed (now - windowSeconds * 1000 + 1)) .posInf =
      (id, oldest) :: rest) :
    key.zcount (.closed (now + secondsLeft now windowSeconds oldest * 1000 -
        windowSeconds * 1000 + 1)) .posInf =
      (((id, oldest) :: rest).filter fun entry =>
        secondsLeft now windowSeconds oldest < secondsLeft now windowSeconds entry.2).length := by
  have within := oldest_within window
  have positive : 0 < secondsLeft now windowSeconds oldest := by
    unfold secondsLeft
    omega
  rw [Volatile.zcount_eq_length, ← window, Volatile.zrangebyscore, Volatile.zrangebyscore,
    List.filter_filter]
  congr 2
  refine List.filter_congr fun entry _ => ?_
  simp only [Volatile.inRange_closed_posInf, in_later_window_iff]
  rw [Bool.eq_iff_iff, Bool.and_eq_true, decide_eq_true_eq, decide_eq_true_eq]
  constructor
  · intro later
    have after := in_later_window_iff.mpr later
    exact ⟨later, by omega⟩
  · exact fun both => both.1

theorem retryAfter_of_window {id : String} {oldest : Int} {rest : List (String × Int)}
    (window : key.zrangebyscore (.closed (now - windowSeconds * 1000 + 1)) .posInf =
      (id, oldest) :: rest) :
    QuotaKeys.retryAfter now (now - windowSeconds * 1000 + 1) windowSeconds key =
      secondsLeft now windowSeconds oldest := by
  rw [QuotaKeys.retryAfter, window]
  exact retrySeconds_eq (oldest_within window)

theorem zcount_le_outlasting {after : ZSet} {later : Int} (thinned : key.Thinned after)
    (waited : now + QuotaKeys.retryAfter now (now - windowSeconds * 1000 + 1) windowSeconds key * 1000
      ≤ later) :
    (after.live later).zcount (.closed (later - windowSeconds * 1000 + 1)) .posInf ≤
      outlasting now windowSeconds key := by
  have alive := thinned.trans (Volatile.thinned_live later after)
  unfold outlasting
  dsimp only
  split
  next empty =>
    have positive : 0 < QuotaKeys.retryAfter now (now - windowSeconds * 1000 + 1) windowSeconds key := by
      simp [QuotaKeys.retryAfter, empty]
    have bound : (after.live later).zcount (.closed (later - windowSeconds * 1000 + 1)) .posInf ≤
        key.zcount (.closed (now - windowSeconds * 1000 + 1)) .posInf := alive.zcount_le (by omega)
    rw [Volatile.zcount_eq_length key, empty] at bound
    simpa using bound
  next id oldest rest window =>
    rw [retryAfter_of_window window] at waited
    split
    next passed =>
      have gone : key.expiresAt.any (· < later) := by
        obtain ⟨deadline, carried, before⟩ := (Option.any_eq_true _ _).mp passed
        refine (Option.any_eq_true _ _).mpr ⟨deadline, carried, ?_⟩
        rw [decide_eq_true_eq] at before ⊢
        omega
      rw [Volatile.zcount_of_empty (thinned.live_empty gone)]
    next =>
      rw [window, ← zcount_after_oldest window]
      exact alive.zcount_le (by omega)

-- When exactly the hinted seconds have passed, all events that outlast the oldest one count.
theorem outlasting_le_zcount {retentionSeconds : Int} (retained : windowSeconds ≤ retentionSeconds) :
    let later := now +
      QuotaKeys.retryAfter now (now - windowSeconds * 1000 + 1) windowSeconds key * 1000
    outlasting now windowSeconds key ≤
      ((key.live later).zremrangebyscore .negInf (.closed (later - retentionSeconds * 1000))).zcount
        (.closed (later - windowSeconds * 1000 + 1)) .posInf := by
  intro later
  unfold outlasting
  dsimp only
  split
  next => exact zcount_nonneg _ _ _
  next id oldest rest window =>
    have moment : later = now + secondsLeft now windowSeconds oldest * 1000 := by
      rw [← retryAfter_of_window window]
    split
    next => exact zcount_nonneg _ _ _
    next alive =>
      have lasting : key.live later = key := by
        rw [Volatile.live, moment]
        exact if_neg alive
      rw [window, ← zcount_after_oldest window, ← moment, lasting]
      -- what the window counts is younger than what the retention prunes
      refine le_of_eq ?_
      simp only [Volatile.zcount, Volatile.zremrangebyscore, Volatile.update_entries, Table.retain,
        List.filter_filter]
      congr 2
      refine List.filter_congr fun entry _ => ?_
      rw [Bool.eq_iff_iff, Bool.and_eq_true, Volatile.inRange_closed_posInf, decide_eq_true_eq]
      constructor
      · intro counted
        refine ⟨counted, ?_⟩
        simp [ScoreBound.inRange, ScoreBound.atLeast, ScoreBound.atMost]
        omega
      · exact fun both => both.1

theorem outlasting_le_used (now windowSeconds : Int) (key : ZSet) :
    outlasting now windowSeconds key ≤
      key.zcount (.closed (now - windowSeconds * 1000 + 1)) .posInf := by
  rw [Volatile.zcount_eq_length]
  unfold outlasting
  dsimp only
  split
  next => exact Int.natCast_nonneg _
  next =>
    split
    next => exact Int.natCast_nonneg _
    next => exact Int.ofNat_le.mpr (List.length_filter_le _ _)

end RequestWindows

section TokenWindows

variable {now windowSeconds : Int} {keys : QuotaKeys}

-- The loop stops at an event such that the later ones weigh no more than what it may leave.
theorem tokenRetryFrom_spec (nonneg : ∀ id, 0 ≤ keys.tokensOf id) {required : Int}
    (entries : List (String × Int)) (sorted : entries.Pairwise fun first second => first.2 ≤ second.2)
    {released : Int} (short : released < required)
    (reached : required ≤ released + (entries.map fun entry => keys.tokensOf entry.1).sum) :
    ∃ entry ∈ entries,
      keys.tokenRetryFrom now windowSeconds required released entries =
        retrySeconds (entry.2 + windowSeconds * 1000 - now) ∧
      ((entries.filter fun other => entry.2 < other.2).map fun other => keys.tokensOf other.1).sum ≤
        released + (entries.map fun entry => keys.tokensOf entry.1).sum - required := by
  induction entries generalizing released with
  | nil =>
    rw [List.map_nil, List.sum_nil] at reached
    omega
  | cons head rest ih =>
    obtain ⟨id, score⟩ := head
    rw [List.pairwise_cons] at sorted
    simp only [List.map_cons, List.sum_cons] at reached ⊢
    rw [QuotaKeys.tokenRetryFrom]
    by_cases enough : released + keys.tokensOf id ≥ required
    · refine ⟨(id, score), List.mem_cons_self, if_pos enough, ?_⟩
      have lighter : ((rest.filter fun other => score < other.2).map
          fun other => keys.tokensOf other.1).sum ≤
          (rest.map fun other => keys.tokensOf other.1).sum := by
        refine (List.filter_sublist.map _).sum_le_sum fun value drawn => ?_
        obtain ⟨other, -, rfl⟩ := List.mem_map.mp drawn
        exact nonneg other.1
      rw [List.filter_cons_of_neg (by simp)]
      dsimp only
      omega
    · obtain ⟨entry, member, answer, lighter⟩ :=
        @ih sorted.2 (released + keys.tokensOf id) (by omega) (by omega)
      refine ⟨entry, List.mem_cons_of_mem _ member, (if_neg enough).trans answer, ?_⟩
      -- the head is not later than the event at which the loop stops
      have earlier : score ≤ entry.2 := sorted.1 entry member
      rw [List.filter_cons_of_neg (by simpa using earlier)]
      omega

theorem tokenUsage_after_hint {limit later : Int} (nonneg : ∀ id, 0 ≤ keys.tokensOf id)
    (exceeded : keys.tokenUsage (now - windowSeconds * 1000 + 1) ≥ limit) {after : QuotaKeys}
    (thinned : keys.Thinned after)
    (waited : now + keys.tokenRetryFrom now windowSeconds
      (keys.tokenUsage (now - windowSeconds * 1000 + 1) + 1 - limit) 0
      (keys.tokens.zrangebyscore (.closed (now - windowSeconds * 1000 + 1)) .posInf) * 1000 ≤ later)
    (positive : 0 < limit) :
    after.tokenUsage (later - windowSeconds * 1000 + 1) < limit := by
  let window := keys.tokens.zrangebyscore (.closed (now - windowSeconds * 1000 + 1)) .posInf
  have total : (window.map fun entry => keys.tokensOf entry.1).sum =
      keys.tokenUsage (now - windowSeconds * 1000 + 1) := rfl
  let required := keys.tokenUsage (now - windowSeconds * 1000 + 1) + 1 - limit
  obtain ⟨entry, member, answer, lighter⟩ := @tokenRetryFrom_spec now windowSeconds keys nonneg
    required window ((Volatile.pairwise_zordered _).filter _) 0 (by omega) (by omega)
  have within : now - windowSeconds * 1000 + 1 ≤ entry.2 := by
    simpa using (List.mem_filter.mp member).2
  rw [answer, retrySeconds_eq within] at waited
  have passed : entry.2 < later - windowSeconds * 1000 + 1 := by
    unfold secondsLeft at waited
    omega
  have narrowed : keys.tokenUsage (entry.2 + 1) =
      ((window.filter fun other => entry.2 < other.2).map fun other => keys.tokensOf other.1).sum := by
    rw [QuotaKeys.tokenUsage, Volatile.zrangebyscore]
    simp only [window, Volatile.zrangebyscore, List.filter_filter, Volatile.inRange_closed_posInf]
    congr 2
    refine List.filter_congr fun other _ => ?_
    rw [Bool.eq_iff_iff, Bool.and_eq_true, decide_eq_true_eq, decide_eq_true_eq, decide_eq_true_eq]
    omega
  have bound : after.tokenUsage (later - windowSeconds * 1000 + 1) ≤ keys.tokenUsage (entry.2 + 1) :=
    thinned.tokenUsage_le nonneg (by omega)
  omega

end TokenWindows

def DownstreamReply.quotaHint : DownstreamReply → Option (Nat × Int)
  | .perMinute _ _ retry => some (1, retry)
  | .requestQuota _ _ retry _ => some (2, retry)
  | .daily _ _ retry => some (3, retry)
  | .monthly _ _ retry => some (4, retry)
  | _ => none

section Rejections

variable {now : Int} {args : QuotaArgs} {keys : QuotaKeys}

def QuotaKeys.hint (now : Int) (args : QuotaArgs) (keys : QuotaKeys) : Option (Nat × Int) :=
  (keys.rejection now args).bind DownstreamReply.quotaHint

def QuotaKeys.minuteUsed (keys : QuotaKeys) (now : Int) : Int :=
  keys.requests.zcount (.closed (now - 60 * 1000 + 1)) .posInf

def QuotaKeys.quotaUsed (keys : QuotaKeys) (now : Int) (args : QuotaArgs) : Int :=
  keys.requests.zcount (.closed (now - args.requestWindowSeconds * 1000 + 1)) .posInf

def QuotaKeys.dailyUsed (keys : QuotaKeys) (now : Int) : Int :=
  keys.tokenUsage (now - 24 * 60 * 60 * 1000 + 1)

def QuotaKeys.monthlyUsed (keys : QuotaKeys) (now : Int) : Int :=
  keys.tokenUsage (now - 30 * 24 * 60 * 60 * 1000 + 1)

def QuotaArgs.Exceeded (args : QuotaArgs) (used : Int) : Prop :=
  0 < args.requestWindowSeconds ∧ 0 < args.requestQuota ∧ args.requestQuota ≤ used

def tokensExceeded (limit used : Int) : Prop :=
  0 < limit ∧ limit ≤ used

inductive QuotaVerdict (now : Int) (args : QuotaArgs) (keys : QuotaKeys) : Option (Nat × Int) → Prop
    where
  | perMinute (exceeded : args.minuteLimit ≤ keys.minuteUsed now) :
      QuotaVerdict now args keys
        (some (1, QuotaKeys.retryAfter now (now - 60 * 1000 + 1) 60 keys.requests))
  | requestQuota (minute : keys.minuteUsed now < args.minuteLimit)
      (exceeded : args.Exceeded (keys.quotaUsed now args)) :
      QuotaVerdict now args keys
        (some (2, QuotaKeys.retryAfter now (now - args.requestWindowSeconds * 1000 + 1)
          args.requestWindowSeconds keys.requests))
  | daily (minute : keys.minuteUsed now < args.minuteLimit)
      (requests : ¬args.Exceeded (keys.quotaUsed now args))
      (exceeded : tokensExceeded args.dailyLimit (keys.dailyUsed now)) :
      QuotaVerdict now args keys
        (some (3, keys.tokenRetryFrom now (24 * 60 * 60) (keys.dailyUsed now + 1 - args.dailyLimit) 0
          (keys.tokens.zrangebyscore (.closed (now - 24 * 60 * 60 * 1000 + 1)) .posInf)))
  | monthly (minute : keys.minuteUsed now < args.minuteLimit)
      (requests : ¬args.Exceeded (keys.quotaUsed now args))
      (day : ¬tokensExceeded args.dailyLimit (keys.dailyUsed now))
      (exceeded : tokensExceeded args.monthlyLimit (keys.monthlyUsed now)) :
      QuotaVerdict now args keys
        (some (4, keys.tokenRetryFrom now (30 * 24 * 60 * 60)
          (keys.monthlyUsed now + 1 - args.monthlyLimit) 0
          (keys.tokens.zrangebyscore (.closed (now - 30 * 24 * 60 * 60 * 1000 + 1)) .posInf)))
  | admitted (minute : keys.minuteUsed now < args.minuteLimit)
      (requests : ¬args.Exceeded (keys.quotaUsed now args))
      (day : ¬tokensExceeded args.dailyLimit (keys.dailyUsed now))
      (month : ¬tokensExceeded args.monthlyLimit (keys.monthlyUsed now)) :
      QuotaVerdict now args keys none

theorem tokenRejection_of_exceeded {windowSeconds limit : Int}
    {reply : Int → Int → Int → DownstreamReply}
    (exceeded : tokensExceeded limit (keys.tokenUsage (now - windowSeconds * 1000 + 1))) :
    keys.tokenRejection now windowSeconds limit reply =
      some (reply (keys.tokenUsage (now - windowSeconds * 1000 + 1)) limit
        (keys.tokenRetryFrom now windowSeconds
          (keys.tokenUsage (now - windowSeconds * 1000 + 1) + 1 - limit) 0
          (keys.tokens.zrangebyscore (.closed (now - windowSeconds * 1000 + 1)) .posInf))) := by
  rw [QuotaKeys.tokenRejection, if_pos exceeded.1]
  exact if_pos exceeded.2

theorem tokenRejection_of_below {windowSeconds limit : Int}
    {reply : Int → Int → Int → DownstreamReply}
    (below : ¬tokensExceeded limit (keys.tokenUsage (now - windowSeconds * 1000 + 1))) :
    keys.tokenRejection now windowSeconds limit reply = none := by
  unfold QuotaKeys.tokenRejection
  split
  next positive => exact if_neg fun reached => below ⟨positive, reached⟩
  next => rfl

theorem requestRejection_of_exceeded (exceeded : args.Exceeded (keys.quotaUsed now args)) :
    keys.requestRejection now args =
      some (.requestQuota (keys.quotaUsed now args) args.requestQuota
        (QuotaKeys.retryAfter now (now - args.requestWindowSeconds * 1000 + 1)
          args.requestWindowSeconds keys.requests) args.requestWindowSeconds) := by
  rw [QuotaKeys.requestRejection, if_pos ⟨exceeded.1, exceeded.2.1⟩]
  exact if_pos exceeded.2.2

theorem requestRejection_of_below (below : ¬args.Exceeded (keys.quotaUsed now args)) :
    keys.requestRejection now args = none := by
  unfold QuotaKeys.requestRejection
  split
  next enabled => exact if_neg fun reached => below ⟨enabled.1, enabled.2, reached⟩
  next => rfl

theorem quotaVerdict (now : Int) (args : QuotaArgs) (keys : QuotaKeys) :
    QuotaVerdict now args keys (keys.hint now args) := by
  unfold QuotaKeys.hint QuotaKeys.rejection
  by_cases minute : args.minuteLimit ≤ keys.minuteUsed now
  · have refused : keys.minuteRejection now args = some (.perMinute (keys.minuteUsed now)
        args.minuteLimit (QuotaKeys.retryAfter now (now - 60 * 1000 + 1) 60 keys.requests)) :=
      if_pos minute
    rw [refused]
    exact .perMinute minute
  have passed : keys.minuteRejection now args = none := if_neg minute
  by_cases requests : args.Exceeded (keys.quotaUsed now args)
  · rw [passed, requestRejection_of_exceeded requests]
    exact .requestQuota (by omega) requests
  by_cases day : tokensExceeded args.dailyLimit (keys.dailyUsed now)
  · rw [passed, requestRejection_of_below requests, tokenRejection_of_exceeded day]
    exact .daily (by omega) requests day
  by_cases month : tokensExceeded args.monthlyLimit (keys.monthlyUsed now)
  · rw [passed, requestRejection_of_below requests, tokenRejection_of_below day,
      tokenRejection_of_exceeded month]
    exact .monthly (by omega) requests day month
  rw [passed, requestRejection_of_below requests, tokenRejection_of_below day,
    tokenRejection_of_below month]
  exact .admitted (by omega) requests day month

theorem minuteUsed_of_code {retry : Int} (refused : keys.hint now args = some (1, retry)) :
    args.minuteLimit ≤ keys.minuteUsed now := by
  have verdict := quotaVerdict now args keys
  rw [refused] at verdict
  cases verdict
  assumption

theorem quotaUsed_of_code {retry : Int} (refused : keys.hint now args = some (2, retry)) :
    args.Exceeded (keys.quotaUsed now args) := by
  have verdict := quotaVerdict now args keys
  rw [refused] at verdict
  cases verdict
  assumption

theorem dailyUsed_of_code {retry : Int} (refused : keys.hint now args = some (3, retry)) :
    tokensExceeded args.dailyLimit (keys.dailyUsed now) := by
  have verdict := quotaVerdict now args keys
  rw [refused] at verdict
  cases verdict
  assumption

theorem monthlyUsed_of_code {retry : Int} (refused : keys.hint now args = some (4, retry)) :
    tokensExceeded args.monthlyLimit (keys.monthlyUsed now) := by
  have verdict := quotaVerdict now args keys
  rw [refused] at verdict
  cases verdict
  assumption

end Rejections

section Hints

variable {now : Int} {quota : QuotaArgs} {lease : LeaseArgs} {keys : AdmissionKeys}

/-- The quota keys as a run at `now` counts them. -/
def countedKeys (now : Int) (quota : QuotaArgs) (keys : AdmissionKeys) : QuotaKeys :=
  (keys.quota.live now).prune now quota

def EventRecorded (now : Int) (quota : QuotaArgs) (keys : AdmissionKeys) : Prop :=
  ((countedKeys now quota keys).requests.zscore quota.eventId).isSome

def HintSuffices (now : Int) (quota : QuotaArgs) (lease : LeaseArgs) (keys : AdmissionKeys) : Prop :=
  ∀ code retry, (downstreamAdmission now quota lease keys).1.quotaHint = some (code, retry) →
    ∀ again, QuietRun ⟨now, (downstreamAdmission now quota lease keys).2⟩ again →
      now + retry * 1000 ≤ again.clock → ∀ eventId leaseAgain later,
        (downstreamAdmission again.clock { quota with eventId := eventId } leaseAgain
          again.keys).1.quotaHint ≠ some (code, later)

structure CountedBelow (now : Int) (args : QuotaArgs) (keys : QuotaKeys) : Prop where
  minute : keys.minuteUsed now < args.minuteLimit
  requests : 0 < args.requestWindowSeconds → 0 < args.requestQuota →
    keys.quotaUsed now args < args.requestQuota
  daily : 0 < args.dailyLimit → keys.dailyUsed now < args.dailyLimit
  monthly : 0 < args.monthlyLimit → keys.monthlyUsed now < args.monthlyLimit

def AdmitsBelowLimits (now : Int) (quota : QuotaArgs) (lease : LeaseArgs) (keys : AdmissionKeys) :
    Prop :=
  (downstreamAdmission now quota lease keys).1 = .reserved → ¬EventRecorded now quota keys →
    CountedBelow now quota (countedKeys now quota keys)

def OldestFreesEnough (now : Int) (quota : QuotaArgs) (keys : AdmissionKeys) : Prop :=
  EventRecorded now quota keys ∨
    outlasting now 60 (countedKeys now quota keys).requests < quota.minuteLimit ∧
    ((countedKeys now quota keys).minuteUsed now < quota.minuteLimit →
      0 < quota.requestWindowSeconds → 0 < quota.requestQuota →
      outlasting now quota.requestWindowSeconds (countedKeys now quota keys).requests <
        quota.requestQuota)

theorem quotaHint_of_leaseRejection {args : LeaseArgs} {group aggregate : ZSet}
    {reply : DownstreamReply} (rejected : leaseRejection now args group aggregate = some reply) :
    reply.quotaHint = none := by
  unfold leaseRejection at rejected
  split at rejected
  · cases rejected
    rfl
  · split at rejected
    · cases rejected
      rfl
    · cases rejected

theorem quotaHint_of_recorded (recorded : EventRecorded now quota keys) :
    (downstreamAdmission now quota lease keys).1.quotaHint = none := by
  unfold EventRecorded countedKeys at recorded
  unfold downstreamAdmission
  dsimp only
  rw [if_pos recorded]
  rfl

theorem quotaHint_of_unrecorded (missing : ¬EventRecorded now quota keys) :
    (downstreamAdmission now quota lease keys).1.quotaHint =
      (countedKeys now quota keys).hint now quota := by
  unfold EventRecorded countedKeys at missing
  unfold downstreamAdmission
  dsimp only
  rw [if_neg missing, QuotaKeys.hint, countedKeys]
  split
  next reply refused =>
    rw [refused]
    rfl
  next passed =>
    rw [passed]
    split
    next => rfl
    next =>
      split
      next reply rejected => exact quotaHint_of_leaseRejection rejected
      next => rfl

theorem not_reserved_of_hint {hint : Nat × Int}
    (refused : (downstreamAdmission now quota lease keys).1.quotaHint = some hint) :
    (downstreamAdmission now quota lease keys).1 ≠ .reserved := by
  intro reserved
  rw [reserved] at refused
  cases refused

theorem admits_below_limits (now : Int) (quota : QuotaArgs) (lease : LeaseArgs)
    (keys : AdmissionKeys) : AdmitsBelowLimits now quota lease keys := by
  intro reserved missing
  have verdict := quotaVerdict now quota (countedKeys now quota keys)
  rw [← @quotaHint_of_unrecorded now quota lease keys missing, reserved] at verdict
  cases verdict with
  | admitted minute requests day month =>
    exact ⟨minute,
      fun window positive => lt_of_not_ge fun reached => requests ⟨window, positive, reached⟩,
      fun positive => lt_of_not_ge fun reached => day ⟨positive, reached⟩,
      fun positive => lt_of_not_ge fun reached => month ⟨positive, reached⟩⟩

theorem counted_again {hint : Nat × Int} {again : AdmissionMoment} (eventId : String)
    (refused : (downstreamAdmission now quota lease keys).1.quotaHint = some hint)
    (run : QuietRun ⟨now, (downstreamAdmission now quota lease keys).2⟩ again) :
    (countedKeys now quota keys).Thinned again.keys.quota ∧
      (again.keys.quota.live again.clock).Thinned
        (countedKeys again.clock { quota with eventId := eventId } again.keys) := by
  have thinned := run.thinned
  rw [downstreamAdmission_quota (Or.inl (not_reserved_of_hint refused))] at thinned
  exact ⟨thinned, QuotaKeys.thinned_prune _ _ _⟩

theorem hint_of_refused {hint : Nat × Int}
    (refused : (downstreamAdmission now quota lease keys).1.quotaHint = some hint) :
    ¬EventRecorded now quota keys ∧ (countedKeys now quota keys).hint now quota = some hint := by
  have missing : ¬EventRecorded now quota keys := by
    intro recorded
    rw [quotaHint_of_recorded recorded] at refused
    cases refused
  rw [quotaHint_of_unrecorded missing] at refused
  exact ⟨missing, refused⟩

theorem hintSuffices_of_enough (nonneg : ∀ id, 0 ≤ keys.quota.tokensOf id)
    (enough : OldestFreesEnough now quota keys) : HintSuffices now quota lease keys := by
  intro code retry refused again run waited eventId leaseAgain later refusedAgain
  obtain ⟨left, tidied⟩ := counted_again eventId refused run
  obtain ⟨missing, hinted⟩ := hint_of_refused refused
  obtain ⟨-, hintedAgain⟩ := hint_of_refused refusedAgain
  obtain ⟨minuteRoom, quotaRoom⟩ := enough.resolve_left missing
  have alive := (left.trans (QuotaKeys.thinned_live _ _)).trans tidied
  have counted : ∀ id, 0 ≤ (countedKeys now quota keys).tokensOf id := by
    intro id
    rcases (QuotaKeys.thinned_tidy now quota keys.quota).values id with kept | dropped
    · exact kept ▸ nonneg id
    · exact dropped.ge
  have verdict := quotaVerdict now quota (countedKeys now quota keys)
  rw [hinted] at verdict
  cases verdict with
  | perMinute =>
    have reached := minuteUsed_of_code hintedAgain
    have bound := zcount_le_outlasting left.requests waited
    have pruned := tidied.requests.zcount_le (le_refl (again.clock - 60 * 1000 + 1))
    exact absurd (reached.trans (pruned.trans bound)) (not_le.mpr minuteRoom)
  | requestQuota minute exceeded =>
    have reached := (quotaUsed_of_code hintedAgain).2.2
    have bound := zcount_le_outlasting left.requests waited
    have pruned := tidied.requests.zcount_le
      (le_refl (again.clock - quota.requestWindowSeconds * 1000 + 1))
    exact absurd (reached.trans (pruned.trans bound))
      (not_le.mpr (quotaRoom minute exceeded.1 exceeded.2.1))
  | daily _ _ exceeded =>
    have freed := tokenUsage_after_hint counted exceeded.2 alive waited exceeded.1
    exact absurd (dailyUsed_of_code hintedAgain).2 (not_le.mpr freed)
  | monthly _ _ _ exceeded =>
    have freed := tokenUsage_after_hint counted exceeded.2 alive waited exceeded.1
    exact absurd (monthlyUsed_of_code hintedAgain).2 (not_le.mpr freed)

theorem retryAfter_pos (now start windowSeconds : Int) (key : ZSet) :
    0 < QuotaKeys.retryAfter now start windowSeconds key := by
  unfold QuotaKeys.retryAfter retrySeconds
  split <;> omega

theorem hint_of_minute {args : QuotaArgs} {counted : QuotaKeys}
    (exceeded : args.minuteLimit ≤ counted.minuteUsed now) :
    counted.hint now args =
      some (1, QuotaKeys.retryAfter now (now - 60 * 1000 + 1) 60 counted.requests) := by
  have verdict := quotaVerdict now args counted
  generalize counted.hint now args = hint at verdict
  cases verdict with
  | perMinute => rfl
  | requestQuota minute => omega
  | daily minute => omega
  | monthly minute => omega
  | admitted minute => omega

theorem hint_of_quota {args : QuotaArgs} {counted : QuotaKeys}
    (minute : counted.minuteUsed now < args.minuteLimit)
    (exceeded : args.Exceeded (counted.quotaUsed now args)) :
    counted.hint now args =
      some (2, QuotaKeys.retryAfter now (now - args.requestWindowSeconds * 1000 + 1)
        args.requestWindowSeconds counted.requests) := by
  have verdict := quotaVerdict now args counted
  generalize counted.hint now args = hint at verdict
  cases verdict with
  | perMinute => omega
  | requestQuota => rfl
  | daily _ below => exact absurd exceeded below
  | monthly _ below => exact absurd exceeded below
  | admitted _ below => exact absurd exceeded below

theorem hint_on_time {code : Nat} {retry : Int} (sufficient : HintSuffices now quota lease keys)
    (missing : ¬EventRecorded now quota keys) (positive : 0 < retry)
    (hinted : (countedKeys now quota keys).hint now quota = some (code, retry)) (later : Int) :
    (((countedKeys now quota keys).live (now + retry * 1000)).prune (now + retry * 1000) quota).hint
      (now + retry * 1000) quota ≠ some (code, later) := by
  let after := (downstreamAdmission now quota lease keys).2
  have refused : (downstreamAdmission now quota lease keys).1.quotaHint = some (code, retry) :=
    (quotaHint_of_unrecorded missing).trans hinted
  have kept : after.quota = countedKeys now quota keys :=
    downstreamAdmission_quota (Or.inl (not_reserved_of_hint refused))
  have again := sufficient code retry refused ⟨now + retry * 1000, after⟩
    (.single (.wait ⟨now, after⟩ _ (by dsimp only; omega))) (le_refl _) quota.eventId lease later
  have unrecorded : ¬EventRecorded (now + retry * 1000) quota after := by
    have gone : (countedKeys now quota keys).requests.zscore quota.eventId = none :=
      Option.not_isSome_iff_eq_none.mp missing
    rw [EventRecorded, countedKeys, kept, (QuotaKeys.thinned_tidy _ _ _).unrecorded gone]
    exact Bool.false_ne_true
  rw [quotaHint_of_unrecorded unrecorded, countedKeys, kept] at again
  exact again

theorem enough_of_hintSuffices (sufficient : HintSuffices now quota lease keys) :
    OldestFreesEnough now quota keys := by
  by_cases recorded : EventRecorded now quota keys
  · exact Or.inl recorded
  refine Or.inr ⟨?_, ?_⟩
  · by_cases exceeded : quota.minuteLimit ≤ (countedKeys now quota keys).minuteUsed now
    · refine lt_of_not_ge fun crowded => ?_
      refine hint_on_time sufficient recorded (retryAfter_pos _ _ _ _) (hint_of_minute exceeded) _
        (hint_of_minute (crowded.trans ?_))
      refine outlasting_le_zcount ?_
      unfold QuotaArgs.requestRetentionSeconds
      omega
    · exact (outlasting_le_used _ _ _).trans_lt (not_le.mp exceeded)
  · intro minute window positive
    by_cases exceeded :
        quota.requestQuota ≤ (countedKeys now quota keys).quotaUsed now quota
    · refine lt_of_not_ge fun crowded => ?_
      have start := retryAfter_pos now (now - quota.requestWindowSeconds * 1000 + 1)
        quota.requestWindowSeconds (countedKeys now quota keys).requests
      have still : ∀ later, now ≤ later → (((countedKeys now quota keys).live later).prune later
          quota).minuteUsed later < quota.minuteLimit := by
        intro later ordered
        refine lt_of_le_of_lt ?_ minute
        exact (QuotaKeys.thinned_tidy _ _ _).requests.zcount_le (by omega)
      refine hint_on_time sufficient recorded start (hint_of_quota minute ⟨window, positive, exceeded⟩)
        _ (hint_of_quota (still _ (by omega)) ⟨window, positive, crowded.trans ?_⟩)
      refine outlasting_le_zcount ?_
      unfold QuotaArgs.requestRetentionSeconds
      omega
    · exact (outlasting_le_used _ _ _).trans_lt (not_le.mp exceeded)

def twoAdmitted : AdmissionKeys :=
  let quota (eventId : String) : QuotaArgs :=
    { eventId := eventId, minuteLimit := 5, requestWindowSeconds := 0, requestQuota := 0,
      dailyLimit := 0, monthlyLimit := 0 }
  let lease (leaseId : String) : LeaseArgs :=
    { leaseId := leaseId, concurrencyLimit := 10, leaseDurationMs := 600000, groupLimit := 0 }
  let absent : AdmissionKeys :=
    { quota := { requests := .absent, tokens := .absent, tokenValues := .absent }
      groupLeases := .absent, aggregateLeases := .absent }
  (downstreamAdmission 30000 (quota "second") (lease "lease-2")
    (downstreamAdmission 0 (quota "first") (lease "lease-1") absent).2).2

def loweredQuota : QuotaArgs where
  eventId := "third"
  minuteLimit := 1
  requestWindowSeconds := 0
  requestQuota := 0
  dailyLimit := 0
  monthlyLimit := 0

def thirdLease : LeaseArgs where
  leaseId := "lease-3"
  concurrencyLimit := 10
  leaseDurationMs := 600000
  groupLimit := 0

end Hints

end ChatGateway
