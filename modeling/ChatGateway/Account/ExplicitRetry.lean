import ChatGateway.Account.Moves

set_option autoImplicit false

/-!
# An upstream's own delay is kept

A rejection with an explicit delay holds back every probe of its account until the delay has passed
or a probe was accepted.
-/

namespace ChatGateway

namespace AccountOperation

variable (jitterHash : AccountConcurrencyKey → Nat → Nat)

/-- The call records a rejection of `account` with an explicit delay. -/
inductive RecordsDelay (registry : AccountConcurrencyRegistry) (now : Instant)
    (account : AccountConcurrencyKey) (delay : Duration) : AccountOperation → Prop
  | reject : RecordsDelay registry now account delay (.reject account (some delay))
  | probe (lease : AccountProbeLease) (own : lease.account = account)
      (valid : (registry.finishProbe jitterHash lease (.concurrencyRejected (some delay)) now).2 =
        .ok ()) :
      RecordsDelay registry now account delay
        (.finishProbe lease (.concurrencyRejected (some delay)))

/-- The call finishes a probe of `account` that was accepted. -/
def Accepts (registry : AccountConcurrencyRegistry) (now : Instant)
    (account : AccountConcurrencyKey) (operation : AccountOperation) : Prop :=
  ∃ lease : AccountProbeLease, lease.account = account ∧ operation = .finishProbe lease .accepted ∧
    (registry.finishProbe jitterHash lease .accepted now).2 = .ok ()

end AccountOperation

/-- A step in which no probe of `account` is accepted. -/
def UnacceptedStep (jitterHash : AccountConcurrencyKey → Nat → Nat)
    (account : AccountConcurrencyKey) (before : AccountSystem) (label : Option AccountOperation)
    (after : AccountSystem) : Prop :=
  AccountStep jitterHash before label after ∧
    ∀ operation ∈ label, ¬operation.Accepts jitterHash before.registry after.now account

/-- The account waits for an explicit delay until `deadline`. -/
def WaitsUntil (deadline : Instant) (entry : Option AccountState) : Prop :=
  ∃ state latest, entry = some state ∧ state.explicitRetryAfterUntil = some latest ∧
    deadline ≤ latest

section Waits

variable {jitterHash : AccountConcurrencyKey → Nat → Nat} {registry : AccountConcurrencyRegistry}
  {now deadline : Instant} {account : AccountConcurrencyKey}

theorem WaitsUntil.prune {state : AccountState} (waits : WaitsUntil deadline (some state))
    (early : now < deadline) : WaitsUntil deadline (some (state.pruneAccount now)) := by
  obtain ⟨_, latest, ⟨⟩, explicit, later⟩ := waits
  refine ⟨_, latest, rfl, ?_, later⟩
  rw [(state.pruneAccount_rejections now).2.2.2, explicit, Option.filter_some,
    if_pos (decide_eq_true (early.trans_le later))]

theorem WaitsUntil.same {before after : AccountState} (waits : WaitsUntil deadline (some before))
    (kept : after.explicitRetryAfterUntil = before.explicitRetryAfterUntil) :
    WaitsUntil deadline (some after) := by
  obtain ⟨_, latest, ⟨⟩, explicit, later⟩ := waits
  exact ⟨after, latest, rfl, kept.trans explicit, later⟩

theorem WaitsUntil.applyRejection {state : AccountState} (waits : WaitsUntil deadline (some state))
    (retryAfter : Option Duration) (advance : Bool) :
    WaitsUntil deadline
      (some (registry.applyRejection jitterHash account retryAfter now advance state)) := by
  obtain ⟨_, latest, ⟨⟩, explicit, later⟩ := waits
  cases retryAfter with
  | none => exact ⟨_, latest, rfl, explicit, later⟩
  | some delay =>
    refine ⟨_, max latest (now + delay), rfl, ?_, later.trans (Nat.le_max_left _ _)⟩
    simp only [AccountConcurrencyRegistry.applyRejection, explicit, Option.map_some,
      Option.getD_some]

theorem applyRejection_waits (state : AccountState) (delay : Duration) (advance : Bool) :
    WaitsUntil (now + delay)
      (some (registry.applyRejection jitterHash account (some delay) now advance state)) := by
  cases explicit : state.explicitRetryAfterUntil with
  | none =>
    refine ⟨_, now + delay, rfl, ?_, Nat.le_refl _⟩
    simp only [AccountConcurrencyRegistry.applyRejection, explicit, Option.map_none,
      Option.getD_none]
  | some latest =>
    refine ⟨_, max latest (now + delay), rfl, ?_, Nat.le_max_right _ _⟩
    simp only [AccountConcurrencyRegistry.applyRejection, explicit, Option.map_some,
      Option.getD_some]

theorem WaitsUntil.retryAfter_pos {state : AccountState} (waits : WaitsUntil deadline (some state))
    (early : now < deadline) : state.retryAfter now ≠ 0 := by
  obtain ⟨_, latest, ⟨⟩, explicit, later⟩ := waits
  have left : 0 < latest - now := Nat.sub_pos_of_lt (early.trans_le later)
  have bound : latest - now ≤ state.retryAfter now := by
    rw [AccountState.retryAfter, explicit, Option.map_some, Option.getD_some]
    exact Nat.le_max_left _ _
  exact Nat.ne_of_gt (left.trans_le bound)

theorem AccountMove.waits {operation : AccountOperation} {before after : Option AccountState}
    (move : AccountMove jitterHash registry now account operation before after)
    (waits : WaitsUntil deadline before) (early : now < deadline)
    (unaccepted : ¬operation.Accepts jitterHash registry now account) :
    WaitsUntil deadline after := by
  cases move with
  | untouched => exact waits
  | pruned => exact waits.prune early
  | rejected entry retryAfter =>
    obtain ⟨state, latest, rfl, explicit, later⟩ := waits
    have pruned : WaitsUntil deadline (some (state.pruneAccount now)) :=
      WaitsUntil.prune ⟨state, latest, rfl, explicit, later⟩ early
    exact pruned.applyRejection retryAfter _
  | enqueued entry ticket =>
    obtain ⟨state, latest, rfl, explicit, later⟩ := waits
    have pruned : WaitsUntil deadline (some (state.pruneAccount now)) :=
      WaitsUntil.prune ⟨state, latest, rfl, explicit, later⟩ early
    exact pruned.same rfl
  | cancelled | retuned => exact waits.same rfl
  | renewed | probeRenewed => exact (waits.prune early).same rfl
  | granted ticket ownerToken own state head rest probe queue first due =>
    exact absurd due ((waits.prune early).retryAfter_pos early)
  | forgotten state served due => exact absurd due ((waits.prune early).retryAfter_pos early)
  | finished lease outcome own state valid =>
    have idle : WaitsUntil deadline
        (some { state.pruneAccount now with probe := none, lastAccess := now }) :=
      (waits.prune early).same rfl
    cases outcome with
    | concurrencyRejected retryAfter => exact idle.applyRejection retryAfter true
    | accepted => exact absurd ⟨lease, own, rfl, valid⟩ unaccepted
    | attemptFailed | cancelled => exact idle

theorem AccountOperation.RecordsDelay.waits {operation : AccountOperation} {delay : Duration}
    (records : operation.RecordsDelay jitterHash registry now account delay) :
    WaitsUntil (now + delay)
      ((operation.apply jitterHash now registry).1.accounts.lookup account) := by
  cases records with
  | reject =>
    rw [apply, AccountConcurrencyRegistry.reject, AccountConcurrencyRegistry.withAccountOrNew,
      Table.lookup_insert_eq, if_pos rfl]
    exact applyRejection_waits _ delay _
  | probe lease own valid =>
    subst own
    unfold AccountConcurrencyRegistry.finishProbe at valid
    rw [apply, AccountConcurrencyRegistry.finishProbe]
    cases found : registry.accounts.lookup lease.account with
    | none =>
      rw [found] at valid
      cases valid
    | some state =>
      rw [found] at valid
      dsimp only at valid ⊢
      cases checked : (state.pruneAccount now).validateProbe lease with
      | error error =>
        rw [checked] at valid
        cases valid
      | ok done =>
        dsimp only
        rw [AccountConcurrencyRegistry.lookup_setAccount, if_pos rfl, found, Option.map_some]
        exact applyRejection_waits _ delay true

end Waits

/-- After a rejection with an explicit delay no probe of the account is granted before the delay has
passed, in any run in which no probe of it is accepted. -/
theorem explicit_retry_after_is_kept (jitterHash : AccountConcurrencyKey → Nat → Nat)
    (before rejected later : AccountSystem) (operation : AccountOperation)
    (account : AccountConcurrencyKey) (delay : Duration)
    (step : AccountStep jitterHash before (some operation) rejected)
    (records : operation.RecordsDelay jitterHash before.registry rejected.now account delay)
    (run : Transition.Steps (UnacceptedStep jitterHash account) (fun _ _ => True) rejected later)
    (ticket : AccountWaitTicket) (own : ticket.account = account) (now : Instant)
    (forward : later.now ≤ now) (soon : now < rejected.now + delay) (ownerToken : String)
    (lease : AccountProbeLease) :
    (later.registry.tryProbe ticket ownerToken now).2 ≠ .granted lease := by
  intro granted
  have start : WaitsUntil (rejected.now + delay) (rejected.registry.accounts.lookup account) := by
    cases step with
    | operate operation now => exact records.waits
  have waits : later.now < rejected.now + delay →
      WaitsUntil (rejected.now + delay) (later.registry.accounts.lookup account) := by
    refine run.invariant (fun system => system.now < rejected.now + delay →
      WaitsUntil (rejected.now + delay) (system.registry.accounts.lookup account)) ?_ fun _ => start
    rintro current label next ⟨taken, unaccepted⟩ - known soon
    cases taken with
    | operate operation moment moved =>
      exact (operation.apply_move jitterHash moment current.registry account).waits
        (known (moved.trans_lt soon)) soon (unaccepted operation rfl)
    | reorder accounts same =>
      rw [same.lookup]
      exact known soon
  obtain ⟨state, _, _, found, -, -, due⟩ :=
    later.registry.tryProbe_granted_head now granted
  have kept := waits (forward.trans_lt soon)
  rw [← own, found] at kept
  exact (kept.prune soon).retryAfter_pos soon due

def delayedAccounts : AccountSystem :=
  waitingAccounts.perform (fun _ _ => 0) (.reject exampleAccount (some (Duration.fromSecs 5))) 0

theorem explicit_retry_after_is_kept_for_waiter :
    ¬∃ lease, (delayedAccounts.registry.tryProbe
      ⟨exampleAccount, "request", "downstream", "lease", 0, 0, "ticket"⟩ "owner"
      (Duration.fromSecs 4)).2 = .granted lease :=
  not_exists.2 (explicit_retry_after_is_kept (fun _ _ => 0) waitingAccounts delayedAccounts
    delayedAccounts (.reject exampleAccount (some (Duration.fromSecs 5))) exampleAccount
    (Duration.fromSecs 5) (.operate _ _ 0 (Nat.le_refl 0) trivial) .reject .refl _ rfl
    (Duration.fromSecs 4) (by decide +kernel) (by decide +kernel) "owner")

end ChatGateway
