import ChatGateway.Account.RecoveryGate

set_option autoImplicit false

/-!
# How a call moves one account

Every call leaves an account alone, or prunes it and then does one more thing to it. Both the queue
of the waiters and the deadlines of the rejections are followed through these moves.
-/

namespace ChatGateway

namespace AccountOperation

/-- Whether the call drops from `account` what has expired. -/
def Prunes (account : AccountConcurrencyKey) : AccountOperation → Prop
  | .reject key _ | .registerWaiter key _ _ _ _ | .registerWaiterIfSaturated key _ _ _ _
  | .snapshot key => key = account
  | .renewWaiter ticket | .tryProbe ticket _ => ticket.account = account
  | .renewProbe lease | .finishProbe lease _ => lease.account = account
  | .pruneIdle => True
  | .cancelWaiter _ | .updateRuntimeTuning _ _ => False

def registered (registry : AccountConcurrencyRegistry) (now : Instant) :
    AccountOperation → Option AccountWaitTicket
  | .registerWaiter key requestId downstreamId downstreamLeaseId token =>
    some (registry.registerWaiter key requestId downstreamId downstreamLeaseId token now).2
  | .registerWaiterIfSaturated key requestId downstreamId downstreamLeaseId token =>
    (registry.registerWaiterIfSaturated key requestId downstreamId downstreamLeaseId token now).2
  | _ => none

theorem no_ticket {registry : AccountConcurrencyRegistry} {now : Instant}
    {operation : AccountOperation} (unregistered : operation.registered registry now = none)
    (account : AccountConcurrencyKey) :
    ∀ ticket ∈ operation.registered registry now, ticket.account ≠ account := by
  rw [unregistered]
  rintro ticket ⟨⟩

end AccountOperation

section Move

variable (jitterHash : AccountConcurrencyKey → Nat → Nat) (registry : AccountConcurrencyRegistry)
  (now : Instant) (account : AccountConcurrencyKey)

inductive AccountMove : AccountOperation → Option AccountState → Option AccountState → Prop
  | untouched (operation : AccountOperation) (entry : Option AccountState)
      (idle : operation.Prunes account → entry = none)
      (unregistered : ∀ ticket ∈ operation.registered registry now, ticket.account ≠ account) :
      AccountMove operation entry entry
  | pruned (operation : AccountOperation) (state : AccountState)
      (unregistered : ∀ ticket ∈ operation.registered registry now, ticket.account ≠ account) :
      AccountMove operation (some state) (some (state.pruneAccount now))
  | rejected (entry : Option AccountState) (retryAfter : Option Duration) :
      AccountMove (.reject account retryAfter) entry
        (some (registry.applyRejection jitterHash account retryAfter now
          ((entry.getD (.new now)).pruneAccount now).probe.isNone
          ((entry.getD (.new now)).pruneAccount now)))
  | enqueued (operation : AccountOperation) (entry : Option AccountState)
      (ticket : AccountWaitTicket) (source : operation.registered registry now = some ticket)
      (own : ticket.account = account) :
      AccountMove operation entry
        (some (registry.enqueue ticket now ((entry.getD (.new now)).pruneAccount now)))
  | cancelled (ticket : AccountWaitTicket) (own : ticket.account = account)
      (state : AccountState) :
      AccountMove (.cancelWaiter ticket) (some state)
        (some { state with
          tickets := state.tickets.filter fun record => !ticketMatches record.ticket ticket
          lastAccess := now })
  | renewed (ticket : AccountWaitTicket) (own : ticket.account = account) (state : AccountState)
      (position : Nat) :
      AccountMove (.renewWaiter ticket) (some state)
        (some { state.pruneAccount now with
          tickets := (state.pruneAccount now).tickets.modify position fun record =>
            { record with leaseDeadline := now + registry.tuning.waiterTtl }
          lastAccess := now })
  | granted (ticket : AccountWaitTicket) (ownerToken : String) (own : ticket.account = account)
      (state : AccountState) (head : TicketRecord) (rest : List TicketRecord) (probe : ProbeRecord)
      (queue : (state.pruneAccount now).tickets = head :: rest)
      (first : ticketIdentityMatches head.ticket ticket = true)
      (due : (state.pruneAccount now).retryAfter now = 0)
      (issued : (registry.tryProbe ticket ownerToken now).2 = .granted probe.lease) :
      AccountMove (.tryProbe ticket ownerToken) (some state)
        (some { state.pruneAccount now with
          tickets := rest
          probe := some probe
          lastAccess := now })
  | probeRenewed (lease : AccountProbeLease) (state : AccountState) (probe : Option ProbeRecord) :
      AccountMove (.renewProbe lease) (some state)
        (some { state.pruneAccount now with probe := probe, lastAccess := now })
  | finished (lease : AccountProbeLease) (outcome : AccountProbeOutcome)
      (own : lease.account = account) (state : AccountState)
      (valid : (registry.finishProbe jitterHash lease outcome now).2 = .ok ()) :
      AccountMove (.finishProbe lease outcome) (some state)
        (some (registry.settle jitterHash account outcome now (state.pruneAccount now)))
  | forgotten (state : AccountState) (served : (state.pruneAccount now).tickets = [])
      (due : (state.pruneAccount now).retryAfter now = 0) :
      AccountMove .pruneIdle (some state) none
  | retuned (delays : List Nat) (wait : Nat) (budget ttl : Duration) (state : AccountState) :
      AccountMove (.updateRuntimeTuning delays wait) (some state)
        (some { state with
          tickets := state.tickets.map fun record =>
            { record with
              logicalDeadline := min record.logicalDeadline (now + budget)
              leaseDeadline := min record.leaseDeadline (now + ttl) } })

end Move

namespace AccountConcurrencyRegistry

variable (jitterHash : AccountConcurrencyKey → Nat → Nat) (registry : AccountConcurrencyRegistry)
  (now : Instant)

theorem move_setAccount {operation : AccountOperation} {key : AccountConcurrencyKey}
    {before after : AccountState} (found : registry.accounts.lookup key = some before)
    (account : AccountConcurrencyKey)
    (moves : account = key → AccountMove jitterHash registry now key operation (some before)
      (some after))
    (others : account ≠ key → ¬operation.Prunes account ∧
      ∀ ticket ∈ operation.registered registry now, ticket.account ≠ account) :
    AccountMove jitterHash registry now account operation (registry.accounts.lookup account)
      ((registry.setAccount key after).accounts.lookup account) := by
  rw [lookup_setAccount]
  by_cases same : account = key
  · subst same
    rw [if_pos rfl, found]
    exact moves rfl
  · obtain ⟨quiet, unregistered⟩ := others same
    rw [if_neg same]
    exact .untouched operation _ (fun prunes => absurd prunes quiet) unregistered

theorem move_withAccountOrNew {operation : AccountOperation} {key : AccountConcurrencyKey}
    {update : AccountState → AccountState} (account : AccountConcurrencyKey)
    (moves : account = key → ∀ entry, registry.accounts.lookup key = entry →
      AccountMove jitterHash registry now key operation entry
        (some (update (entry.getD (.new now)))))
    (others : account ≠ key → ¬operation.Prunes account ∧
      ∀ ticket ∈ operation.registered registry now, ticket.account ≠ account) :
    AccountMove jitterHash registry now account operation (registry.accounts.lookup account)
      ((registry.withAccountOrNew key now update).accounts.lookup account) := by
  rw [withAccountOrNew, Table.lookup_insert_eq]
  by_cases same : account = key
  · subst same
    rw [if_pos rfl]
    exact moves rfl _ rfl
  · obtain ⟨quiet, unregistered⟩ := others same
    rw [if_neg same]
    exact .untouched operation _ (fun prunes => absurd prunes quiet) unregistered

theorem move_missing {operation : AccountOperation} {key : AccountConcurrencyKey}
    (missing : registry.accounts.lookup key = none) {after : AccountConcurrencyRegistry}
    (same : after = registry) (account : AccountConcurrencyKey)
    (prunes : operation.Prunes account → key = account)
    (unregistered : operation.registered registry now = none) :
    AccountMove jitterHash registry now account operation (registry.accounts.lookup account)
      (after.accounts.lookup account) := by
  rw [same]
  refine .untouched _ _ (fun pruned => ?_) (AccountOperation.no_ticket unregistered account)
  rw [← prunes pruned]
  exact missing

theorem tryProbe_move (ticket : AccountWaitTicket) (ownerToken : String)
    (account : AccountConcurrencyKey) :
    AccountMove jitterHash registry now account (.tryProbe ticket ownerToken)
      (registry.accounts.lookup account)
      ((registry.tryProbe ticket ownerToken now).1.accounts.lookup account) := by
  cases found : registry.accounts.lookup ticket.account with
  | none =>
    refine registry.move_missing jitterHash now found ?_ account id rfl
    rw [tryProbe, found]
  | some state =>
    have written (after : AccountState)
        (moves : AccountMove jitterHash registry now ticket.account (.tryProbe ticket ownerToken)
          (some state) (some after)) :
        AccountMove jitterHash registry now account (.tryProbe ticket ownerToken)
          (registry.accounts.lookup account)
          ((registry.setAccount ticket.account after).accounts.lookup account) :=
      registry.move_setAccount jitterHash now found account (fun _ => moves)
        fun different => ⟨fun own => different own.symm, AccountOperation.no_ticket rfl _⟩
    have pruned := written _ (.pruned _ state (AccountOperation.no_ticket rfl _))
    unfold tryProbe
    rw [found]
    dsimp only
    split
    · exact pruned
    split
    · exact pruned
    split
    · exact pruned
    split
    · exact pruned
    split
    · exact pruned
    next _ record matched current first _ idle waited =>
      have issued : (registry.tryProbe ticket ownerToken now).2 = .granted
          { account := ticket.account
            requestId := record.ticket.requestId
            generation := (state.pruneAccount now).generation
            ownerToken := ownerToken
            expiresAtMs := registry.instantMs (now + registry.tuning.probeTtl) } := by
        unfold tryProbe
        rw [found]
        dsimp only
        rw [matched]
        dsimp only
        rw [if_neg current, if_neg first, idle]
        dsimp only
        rw [if_neg waited]
      have due : (state.pruneAccount now).retryAfter now = 0 := not_not.1 waited
      cases queue : (state.pruneAccount now).tickets with
      | nil => simp [queue] at first
      | cons head rest =>
        rw [queue] at first
        exact written _ (.granted ticket ownerToken rfl state head rest ⟨_, _⟩ queue
          (by simpa using first) due issued)

-- A probe is granted to the head of the queue of an account that waits for nothing.
theorem tryProbe_granted_head {ticket : AccountWaitTicket} {ownerToken : String}
    {lease : AccountProbeLease}
    (granted : (registry.tryProbe ticket ownerToken now).2 = .granted lease) :
    ∃ state head rest, registry.accounts.lookup ticket.account = some state ∧
      (state.pruneAccount now).tickets = head :: rest ∧
      ticketIdentityMatches head.ticket ticket = true ∧
      (state.pruneAccount now).retryAfter now = 0 := by
  unfold tryProbe at granted
  cases found : registry.accounts.lookup ticket.account with
  | none =>
    rw [found] at granted
    cases granted
  | some state =>
    rw [found] at granted
    dsimp only at granted
    split at granted
    · cases granted
    split at granted
    · cases granted
    split at granted
    · cases granted
    next first =>
      split at granted
      · cases granted
      split at granted
      · cases granted
      next waited =>
        cases queue : (state.pruneAccount now).tickets with
        | nil => simp [queue] at first
        | cons head rest =>
          rw [queue] at first
          exact ⟨state, head, rest, rfl, queue, by simpa using first, not_not.1 waited⟩

theorem renewWaiter_move (ticket : AccountWaitTicket) (account : AccountConcurrencyKey) :
    AccountMove jitterHash registry now account (.renewWaiter ticket)
      (registry.accounts.lookup account)
      ((registry.renewWaiter ticket now).1.accounts.lookup account) := by
  cases found : registry.accounts.lookup ticket.account with
  | none =>
    refine registry.move_missing jitterHash now found ?_ account id rfl
    rw [renewWaiter, found]
  | some state =>
    have written (after : AccountState)
        (moves : AccountMove jitterHash registry now ticket.account (.renewWaiter ticket)
          (some state) (some after)) :
        AccountMove jitterHash registry now account (.renewWaiter ticket)
          (registry.accounts.lookup account)
          ((registry.setAccount ticket.account after).accounts.lookup account) :=
      registry.move_setAccount jitterHash now found account (fun _ => moves)
        fun different => ⟨fun own => different own.symm, AccountOperation.no_ticket rfl _⟩
    have pruned := written _ (.pruned _ state (AccountOperation.no_ticket rfl _))
    unfold renewWaiter
    rw [found]
    dsimp only
    split
    · exact pruned
    split
    · exact pruned
    split
    · exact pruned
    · exact written _ (.renewed ticket rfl state _)

theorem registerWaiterIfSaturated_move (key account : AccountConcurrencyKey)
    (requestId downstreamId downstreamLeaseId token : String) :
    AccountMove jitterHash registry now account
      (.registerWaiterIfSaturated key requestId downstreamId downstreamLeaseId token)
      (registry.accounts.lookup account)
      ((registry.registerWaiterIfSaturated key requestId downstreamId downstreamLeaseId token
        now).1.accounts.lookup account) := by
  cases found : registry.accounts.lookup key with
  | none =>
    have same : registry.registerWaiterIfSaturated key requestId downstreamId downstreamLeaseId
        token now = (registry, none) := by
      rw [registerWaiterIfSaturated, found]
    exact registry.move_missing jitterHash now found (congrArg Prod.fst same) account id
      (congrArg Prod.snd same)
  | some state =>
    by_cases saturated : (state.pruneAccount now).saturated = true
    · have same : registry.registerWaiterIfSaturated key requestId downstreamId downstreamLeaseId
          token now = (registry.setAccount key (registry.enqueue (registry.newTicket key requestId
              downstreamId downstreamLeaseId token now (state.pruneAccount now)) now
                (state.pruneAccount now)),
            some (registry.newTicket key requestId downstreamId downstreamLeaseId token now
              (state.pruneAccount now))) := by
        rw [registerWaiterIfSaturated, found]
        simp only [saturated, Bool.not_true, Bool.false_eq_true, if_false]
      have registered : (AccountOperation.registerWaiterIfSaturated key requestId downstreamId
          downstreamLeaseId token).registered registry now = _ := congrArg Prod.snd same
      rw [same]
      refine registry.move_setAccount jitterHash now found account (fun _ => ?_)
        fun different => ⟨fun own => different own.symm, ?_⟩
      · exact .enqueued _ (some state) _ registered rfl
      · rw [registered]
        rintro ticket ⟨⟩
        exact different.symm
    · have same : registry.registerWaiterIfSaturated key requestId downstreamId downstreamLeaseId
          token now = (registry.setAccount key (state.pruneAccount now), none) := by
        rw [registerWaiterIfSaturated, found]
        simp [saturated]
      have registered : (AccountOperation.registerWaiterIfSaturated key requestId downstreamId
          downstreamLeaseId token).registered registry now = none := congrArg Prod.snd same
      have unregistered : ∀ ticket ∈ (AccountOperation.registerWaiterIfSaturated key requestId
          downstreamId downstreamLeaseId token).registered registry now,
          ticket.account ≠ account :=
        AccountOperation.no_ticket registered account
      rw [same]
      exact registry.move_setAccount jitterHash now found account
        (fun own => .pruned _ state (own ▸ unregistered))
        fun different => ⟨fun own => different own.symm, unregistered⟩

theorem renewProbe_move (lease : AccountProbeLease) (account : AccountConcurrencyKey) :
    AccountMove jitterHash registry now account (.renewProbe lease)
      (registry.accounts.lookup account)
      ((registry.renewProbe lease now).1.accounts.lookup account) := by
  cases found : registry.accounts.lookup lease.account with
  | none =>
    refine registry.move_missing jitterHash now found ?_ account id rfl
    rw [renewProbe, found]
  | some state =>
    unfold renewProbe
    rw [found]
    dsimp only
    split
    · exact registry.move_setAccount jitterHash now found account
        (fun _ => .pruned _ state (AccountOperation.no_ticket rfl _))
        fun different => ⟨fun own => different own.symm, AccountOperation.no_ticket rfl _⟩
    · exact registry.move_setAccount jitterHash now found account
        (fun _ => .probeRenewed lease state _)
        fun different => ⟨fun own => different own.symm, AccountOperation.no_ticket rfl _⟩

theorem finishProbe_move (lease : AccountProbeLease) (outcome : AccountProbeOutcome)
    (account : AccountConcurrencyKey) :
    AccountMove jitterHash registry now account (.finishProbe lease outcome)
      (registry.accounts.lookup account)
      ((registry.finishProbe jitterHash lease outcome now).1.accounts.lookup account) := by
  cases found : registry.accounts.lookup lease.account with
  | none =>
    refine registry.move_missing jitterHash now found ?_ account id rfl
    rw [finishProbe, found]
  | some state =>
    cases valid : (state.pruneAccount now).validateProbe lease with
    | error error =>
      have same : (registry.finishProbe jitterHash lease outcome now).1 =
          registry.setAccount lease.account (state.pruneAccount now) := by
        simp only [finishProbe, found, valid]
      rw [same]
      exact registry.move_setAccount jitterHash now found account
        (fun _ => .pruned _ state (AccountOperation.no_ticket rfl _))
        fun different => ⟨fun own => different own.symm, AccountOperation.no_ticket rfl _⟩
    | ok done =>
      have same : registry.finishProbe jitterHash lease outcome now =
          (registry.setAccount lease.account
            (registry.settle jitterHash lease.account outcome now (state.pruneAccount now)),
              .ok ()) := by
        simp only [finishProbe, found, valid]
      rw [same]
      exact registry.move_setAccount jitterHash now found account
        (fun _ => .finished lease outcome rfl state (congrArg Prod.snd same))
        fun different => ⟨fun own => different own.symm, AccountOperation.no_ticket rfl _⟩

theorem pruneIdle_move (account : AccountConcurrencyKey) :
    AccountMove jitterHash registry now account .pruneIdle (registry.accounts.lookup account)
      ((registry.pruneIdle now).1.accounts.lookup account) := by
  unfold pruneIdle
  dsimp only
  rw [Table.lookup_retain, Table.lookup_mapEntries]
  cases found : registry.accounts.lookup account with
  | none => exact .untouched _ _ (fun _ => rfl) (AccountOperation.no_ticket rfl _)
  | some state =>
    rw [Option.map_some, Option.filter_some]
    split
    next => exact .pruned _ state (AccountOperation.no_ticket rfl _)
    next idle =>
      simp only [Bool.or_eq_true, decide_eq_true_eq, Bool.not_eq_true', not_or] at idle
      obtain ⟨⟨⟨due, served⟩, -⟩, -⟩ := idle
      exact .forgotten state (by simpa using served) (Nat.eq_zero_of_not_pos due)

end AccountConcurrencyRegistry

theorem AccountOperation.apply_move (jitterHash : AccountConcurrencyKey → Nat → Nat)
    (operation : AccountOperation) (now : Instant) (registry : AccountConcurrencyRegistry)
    (account : AccountConcurrencyKey) :
    AccountMove jitterHash registry now account operation (registry.accounts.lookup account)
      ((operation.apply jitterHash now registry).1.accounts.lookup account) := by
  cases operation with
  | reject key retryAfter =>
    exact registry.move_withAccountOrNew jitterHash now account
      (fun _ entry _ => .rejected entry retryAfter)
      fun different => ⟨fun own => different own.symm, no_ticket rfl _⟩
  | registerWaiter key requestId downstreamId downstreamLeaseId token =>
    refine registry.move_withAccountOrNew jitterHash now account (fun _ entry found => ?_)
      fun different => ⟨fun own => different own.symm, ?_⟩
    · subst found
      exact .enqueued _ _ _ rfl rfl
    · rintro ticket ⟨⟩
      exact different.symm
  | registerWaiterIfSaturated key requestId downstreamId downstreamLeaseId token =>
    exact registry.registerWaiterIfSaturated_move jitterHash now key account requestId downstreamId
      downstreamLeaseId token
  | renewWaiter ticket => exact registry.renewWaiter_move jitterHash now ticket account
  | cancelWaiter ticket =>
    cases found : registry.accounts.lookup ticket.account with
    | none =>
      have same : registry.cancelWaiter ticket now = registry := by
        rw [AccountConcurrencyRegistry.cancelWaiter, found]
      rw [apply, same]
      exact .untouched _ _ False.elim (no_ticket rfl _)
    | some state =>
      have same : registry.cancelWaiter ticket now = registry.setAccount ticket.account
          { state with
            tickets := state.tickets.filter fun record => !ticketMatches record.ticket ticket
            lastAccess := now } := by
        rw [AccountConcurrencyRegistry.cancelWaiter, found]
      rw [apply, same]
      exact registry.move_setAccount jitterHash now found account
        (fun _ => .cancelled ticket rfl state) fun _ => ⟨id, no_ticket rfl _⟩
  | tryProbe ticket ownerToken => exact registry.tryProbe_move jitterHash now ticket ownerToken account
  | renewProbe lease => exact registry.renewProbe_move jitterHash now lease account
  | finishProbe lease outcome =>
    exact registry.finishProbe_move jitterHash now lease outcome account
  | snapshot key =>
    cases found : registry.accounts.lookup key with
    | none =>
      refine registry.move_missing jitterHash now found ?_ account id rfl
      rw [apply, AccountConcurrencyRegistry.snapshot, found]
    | some state =>
      have same : (registry.snapshot key now).1 =
          registry.setAccount key (state.pruneAccount now) := by
        rw [AccountConcurrencyRegistry.snapshot, found]
      rw [apply, same]
      exact registry.move_setAccount jitterHash now found account
        (fun _ => .pruned _ state (no_ticket rfl _))
        fun different => ⟨fun own => different own.symm, no_ticket rfl _⟩
  | pruneIdle => exact registry.pruneIdle_move jitterHash now account
  | updateRuntimeTuning delays wait =>
    unfold apply AccountConcurrencyRegistry.updateRuntimeTuning
    dsimp only
    rw [Table.lookup_mapEntries]
    cases registry.accounts.lookup account with
    | none => exact .untouched _ _ False.elim (no_ticket rfl _)
    | some state => exact .retuned delays wait _ _ state

end ChatGateway
