import ChatGateway.Account.Moves

set_option autoImplicit false

/-!
# The queue of an account

Waiters are probed in the order they registered in, and none of them waits beyond its budget.
-/

namespace ChatGateway

def recordsOf (entry : Option AccountState) : List TicketRecord :=
  (entry.map (·.tickets)).getD []

def queueOf (entry : Option AccountState) : List AccountWaitTicket :=
  (recordsOf entry).map (·.ticket)

namespace AccountState

theorem pruneAccount_tickets (state : AccountState) (now : Instant) :
    (state.pruneAccount now).tickets =
      state.tickets.filter fun record => now < record.logicalDeadline && now < record.leaseDeadline := by
  unfold pruneAccount pruneProbe
  dsimp only
  split <;> rfl

end AccountState

theorem recordsOf_pruned_getD (entry : Option AccountState) (now : Instant) :
    ((entry.getD (.new now)).pruneAccount now).tickets =
      (recordsOf entry).filter fun record =>
        now < record.logicalDeadline && now < record.leaseDeadline := by
  rw [AccountState.pruneAccount_tickets]
  cases entry <;> rfl

theorem modify_tickets (records : List TicketRecord) (position : Nat) (deadline : Instant) :
    (records.modify position fun record => { record with leaseDeadline := deadline }).map
      (·.ticket) = records.map (·.ticket) := by
  induction records generalizing position with
  | nil => simp
  | cons record rest ih =>
    cases position with
    | zero => rfl
    | succ position =>
      rw [List.modify_succ_cons, List.map_cons, List.map_cons, ih]

theorem mem_modify_lease (records : List TicketRecord) (position : Nat) (deadline : Instant)
    {record : TicketRecord} (listed : record ∈ records.modify position fun record =>
      { record with leaseDeadline := deadline }) :
    ∃ old ∈ records, record.ticket = old.ticket ∧
      old.logicalDeadline = record.logicalDeadline := by
  induction records generalizing position with
  | nil => simp at listed
  | cons head rest ih =>
    cases position with
    | zero =>
      rcases List.mem_cons.1 listed with rfl | later
      · exact ⟨head, List.mem_cons_self, rfl, rfl⟩
      · exact ⟨record, List.mem_cons_of_mem _ later, rfl, rfl⟩
    | succ position =>
      rw [List.modify_succ_cons] at listed
      rcases List.mem_cons.1 listed with rfl | later
      · exact ⟨record, List.mem_cons_self, rfl, rfl⟩
      · obtain ⟨old, stored, same⟩ := ih position later
        exact ⟨old, List.mem_cons_of_mem _ stored, same⟩

section Moves

variable {jitterHash : AccountConcurrencyKey → Nat → Nat} {registry : AccountConcurrencyRegistry}
  {now : Instant} {account : AccountConcurrencyKey} {operation : AccountOperation}
  {before after : Option AccountState}

-- A call drops tickets from the queue, and then it may put one of a new request at the end.
theorem AccountMove.queue
    (move : AccountMove jitterHash registry now account operation before after) :
    ∃ kept, kept.Sublist (queueOf before) ∧
      (((∀ ticket ∈ operation.registered registry now, ticket.account ≠ account) ∧
          queueOf after = kept) ∨
        ∃ ticket, operation.registered registry now = some ticket ∧ ticket.account = account ∧
          (∀ other ∈ kept, other.requestId ≠ ticket.requestId) ∧
          queueOf after = kept ++ [ticket]) := by
  have prunedQueue (entry : Option AccountState) :
      (((entry.getD (.new now)).pruneAccount now).tickets.map (·.ticket)).Sublist
        (queueOf entry) := by
    rw [recordsOf_pruned_getD]
    exact List.filter_sublist.map _
  cases move with
  | untouched _ _ idle unregistered =>
    exact ⟨_, List.Sublist.refl _, .inl ⟨unregistered, rfl⟩⟩
  | pruned _ state unregistered => exact ⟨_, prunedQueue (some state), .inl ⟨unregistered, rfl⟩⟩
  | rejected entry retryAfter => exact ⟨_, prunedQueue before, .inl ⟨nofun, rfl⟩⟩
  | enqueued _ _ ticket source own =>
    refine ⟨_, ((List.filter_sublist (p := fun record : TicketRecord =>
      decide (record.ticket.requestId ≠ ticket.requestId))).map _).trans (prunedQueue before),
      .inr ⟨ticket, source, own, ?_, ?_⟩⟩
    · intro other listed
      obtain ⟨record, filtered, rfl⟩ := List.mem_map.1 listed
      exact of_decide_eq_true (List.mem_filter.1 filtered).2
    · exact List.map_append
  | cancelled ticket own state =>
    exact ⟨_, List.filter_sublist.map _, .inl ⟨nofun, rfl⟩⟩
  | renewed ticket own state position =>
    exact ⟨_, prunedQueue (some state), .inl ⟨nofun, modify_tickets _ _ _⟩⟩
  | granted ticket ownerToken own state head rest probe queue =>
    have pruned := prunedQueue (some state)
    rw [Option.getD_some, queue, List.map_cons] at pruned
    exact ⟨_, (List.sublist_cons_self _ _).trans pruned, .inl ⟨nofun, rfl⟩⟩
  | probeRenewed lease state => exact ⟨_, prunedQueue (some state), .inl ⟨nofun, rfl⟩⟩
  | finished lease outcome own state =>
    refine ⟨_, prunedQueue (some state), .inl ⟨nofun, ?_⟩⟩
    cases outcome <;> rfl
  | forgotten => exact ⟨[], List.nil_sublist _, .inl ⟨nofun, rfl⟩⟩
  | retuned delays wait budget ttl state =>
    refine ⟨queueOf (some state), List.Sublist.refl _, .inl ⟨nofun, ?_⟩⟩
    simp [queueOf, recordsOf, Function.comp_def]

-- A record of the queue is one of before with no later deadline, or the one that is registered.
theorem AccountMove.records
    (move : AccountMove jitterHash registry now account operation before after) :
    ∀ record ∈ recordsOf after,
      (∃ old ∈ recordsOf before, old.ticket = record.ticket ∧
        record.logicalDeadline ≤ old.logicalDeadline ∧
        (operation.Prunes account → now < old.logicalDeadline)) ∨
      (operation.registered registry now = some record.ticket ∧
        record.logicalDeadline = now + registry.tuning.waiterBudget) := by
  have live (entry : Option AccountState) {record : TicketRecord}
      (listed : record ∈ ((entry.getD (.new now)).pruneAccount now).tickets) :
      ∃ old ∈ recordsOf entry, old.ticket = record.ticket ∧
        record.logicalDeadline ≤ old.logicalDeadline ∧
        (operation.Prunes account → now < old.logicalDeadline) := by
    rw [recordsOf_pruned_getD, List.mem_filter, Bool.and_eq_true, decide_eq_true_eq] at listed
    exact ⟨record, listed.1, rfl, Nat.le_refl _, fun _ => listed.2.1⟩
  intro record listed
  cases move with
  | untouched _ _ idle =>
    refine .inl ⟨record, listed, rfl, Nat.le_refl _, fun prunes => ?_⟩
    rw [idle prunes] at listed
    cases listed
  | pruned _ state => exact .inl (live (some state) listed)
  | rejected => exact .inl (live before listed)
  | enqueued _ _ ticket source =>
    rcases List.mem_append.1 listed with old | new
    · exact .inl (live before (List.mem_filter.1 old).1)
    · cases List.mem_singleton.1 new
      exact .inr ⟨source, rfl⟩
  | cancelled ticket own state =>
    exact .inl ⟨record, (List.mem_filter.1 listed).1, rfl, Nat.le_refl _, nofun⟩
  | renewed ticket own state position =>
    obtain ⟨kept, present, owner, deadline⟩ := mem_modify_lease _ _ _ listed
    obtain ⟨old, stored, same, later, pruned⟩ := live (some state) present
    exact .inl ⟨old, stored, same.trans owner.symm, deadline ▸ later, pruned⟩
  | granted ticket ownerToken own state head rest probe queue =>
    refine .inl (live (some state) ?_)
    rw [Option.getD_some, queue]
    exact List.mem_cons_of_mem _ listed
  | probeRenewed lease state => exact .inl (live (some state) listed)
  | finished lease outcome own state =>
    refine .inl (live (some state) ?_)
    cases outcome <;> exact listed
  | forgotten => cases listed
  | retuned delays wait budget ttl state =>
    obtain ⟨old, stored, rfl⟩ := List.mem_map.1 listed
    exact .inl ⟨old, stored, rfl, Nat.min_le_left _ _, nofun⟩

end Moves

def Expired (registry : AccountConcurrencyRegistry) (now : Instant) (ticket : AccountWaitTicket) :
    Prop :=
  ∃ record ∈ recordsOf (registry.accounts.lookup ticket.account), record.ticket = ticket ∧
    (record.logicalDeadline ≤ now ∨ record.leaseDeadline ≤ now)

/-- The ticket is granted the probe, is cancelled, is replaced by a new one of its request or has
expired. -/
inductive Departs (registry : AccountConcurrencyRegistry) (now : Instant)
    (ticket : AccountWaitTicket) : AccountOperation → Prop
  | granted (asked : AccountWaitTicket) (ownerToken : String) (lease : AccountProbeLease)
      (own : asked.account = ticket.account) (same : ticketIdentityMatches ticket asked = true)
      (issued : (registry.tryProbe asked ownerToken now).2 = .granted lease) :
      Departs registry now ticket (.tryProbe asked ownerToken)
  | cancelled (asked : AccountWaitTicket) (own : asked.account = ticket.account)
      (same : ticketMatches ticket asked = true) :
      Departs registry now ticket (.cancelWaiter asked)
  | reregistered (operation : AccountOperation) (new : AccountWaitTicket)
      (source : operation.registered registry now = some new)
      (own : new.account = ticket.account) (again : new.requestId = ticket.requestId) :
      Departs registry now ticket operation
  | expired (operation : AccountOperation) (late : Expired registry now ticket) :
      Departs registry now ticket operation

section Moves

variable {jitterHash : AccountConcurrencyKey → Nat → Nat} {registry : AccountConcurrencyRegistry}
  {now : Instant} {operation : AccountOperation} {ticket : AccountWaitTicket}

theorem live_of_not_expired (unexpired : ¬Expired registry now ticket)
    (present : ticket ∈ queueOf (registry.accounts.lookup ticket.account)) :
    ∃ record ∈ (((registry.accounts.lookup ticket.account).getD (.new now)).pruneAccount now).tickets,
      record.ticket = ticket := by
  obtain ⟨record, listed, own⟩ := List.mem_map.1 present
  refine ⟨record, ?_, own⟩
  rw [recordsOf_pruned_getD, List.mem_filter, Bool.and_eq_true, decide_eq_true_eq,
    decide_eq_true_eq]
  refine ⟨listed, ?_, ?_⟩
  · exact Nat.lt_of_not_le fun late => unexpired ⟨record, listed, own, .inl late⟩
  · exact Nat.lt_of_not_le fun late => unexpired ⟨record, listed, own, .inr late⟩

theorem AccountMove.stays {after : Option AccountState}
    (move : AccountMove jitterHash registry now ticket.account operation
      (registry.accounts.lookup ticket.account) after)
    (present : ticket ∈ queueOf (registry.accounts.lookup ticket.account))
    (stays : ¬Departs registry now ticket operation) : ticket ∈ queueOf after := by
  have live := live_of_not_expired (fun late => stays (.expired operation late)) present
  generalize found : registry.accounts.lookup ticket.account = before at move present live
  obtain ⟨record, listed, own⟩ := live
  have kept : ticket ∈ ((before.getD (.new now)).pruneAccount now).tickets.map (·.ticket) :=
    List.mem_map.2 ⟨record, listed, own⟩
  cases move with
  | untouched => exact present
  | pruned | rejected | probeRenewed => exact kept
  | enqueued _ _ new source same =>
    refine List.mem_map.2 ⟨record, List.mem_append_left _ (List.mem_filter.2 ⟨listed, ?_⟩), own⟩
    refine decide_eq_true fun again => stays (.reregistered _ new source same ?_)
    rw [← own, again]
  | cancelled asked same state =>
    obtain ⟨stored, waiting, own⟩ := List.mem_map.1 present
    refine List.mem_map.2 ⟨stored, List.mem_filter.2 ⟨waiting, ?_⟩, own⟩
    rw [Bool.not_eq_true', Bool.eq_false_iff]
    intro matched
    exact stays (.cancelled asked same (own ▸ matched))
  | renewed asked same state position =>
    rw [← modify_tickets _ position (now + registry.tuning.waiterTtl)] at kept
    exact kept
  | granted asked ownerToken same state head rest probe queue first due issued =>
    rw [Option.getD_some, queue] at listed
    rcases List.mem_cons.1 listed with rfl | later
    · exact absurd (.granted asked ownerToken _ same (own ▸ first) issued) stays
    · exact List.mem_map.2 ⟨record, later, own⟩
  | finished lease outcome same state =>
    cases outcome <;> exact kept
  | forgotten state served =>
    rw [Option.getD_some, served] at listed
    cases listed
  | retuned delays wait budget ttl state =>
    obtain ⟨stored, waiting, own⟩ := List.mem_map.1 present
    exact List.mem_map.2 ⟨_, List.mem_map.2 ⟨stored, waiting, rfl⟩, own⟩

end Moves

def StaysStep (jitterHash : AccountConcurrencyKey → Nat → Nat) (ticket : AccountWaitTicket)
    (before : AccountSystem) (label : Option AccountOperation) (after : AccountSystem) : Prop :=
  AccountStep jitterHash before label after ∧
    ∀ operation ∈ label, ¬Departs before.registry after.now ticket operation

def TokenFreshStep (jitterHash : AccountConcurrencyKey → Nat → Nat) (ticket : AccountWaitTicket)
    (before : AccountSystem) (label : Option AccountOperation) (after : AccountSystem) : Prop :=
  AccountStep jitterHash before label after ∧
    ∀ operation ∈ label, ∀ new ∈ operation.registered before.registry after.now,
      new.registrationToken ≠ ticket.registrationToken

def RegistersStep (jitterHash : AccountConcurrencyKey → Nat → Nat) (operation : AccountOperation)
    (ticket : AccountWaitTicket) (before after : AccountSystem) : Prop :=
  AccountStep jitterHash before (some operation) after ∧
    operation.registered before.registry after.now = some ticket

def queueAt (system : AccountSystem) (account : AccountConcurrencyKey) : List AccountWaitTicket :=
  queueOf (system.registry.accounts.lookup account)

section Runs

variable {jitterHash : AccountConcurrencyKey → Nat → Nat} {before after : AccountSystem}
  {label : Option AccountOperation} {ticket : AccountWaitTicket}

theorem StaysStep.present (step : StaysStep jitterHash ticket before label after)
    (present : ticket ∈ queueAt before ticket.account) : ticket ∈ queueAt after ticket.account := by
  obtain ⟨taken, stays⟩ := step
  cases taken with
  | operate operation now =>
    exact (operation.apply_move jitterHash now before.registry ticket.account).stays present
      (stays operation rfl)
  | reorder accounts same =>
    rw [queueAt, same.lookup]
    exact present

theorem RegistersStep.queue {operation : AccountOperation}
    (step : RegistersStep jitterHash operation ticket before after) :
    ∃ kept, kept.Sublist (queueAt before ticket.account) ∧
      (∀ other ∈ kept, other.requestId ≠ ticket.requestId) ∧
      queueAt after ticket.account = kept ++ [ticket] := by
  obtain ⟨taken, source⟩ := step
  cases taken with
  | operate operation now =>
    obtain ⟨kept, sublist, ⟨unregistered, -⟩ | ⟨new, registered, own, others, queue⟩⟩ :=
      (operation.apply_move jitterHash now before.registry ticket.account).queue
    · exact absurd rfl (unregistered ticket source)
    · cases source.symm.trans registered
      exact ⟨kept, sublist, others, queue⟩

def NotBehind (requestId : String) (ticket : AccountWaitTicket) (queue : List AccountWaitTicket) :
    Prop :=
  queue.Pairwise fun first second => first.requestId = requestId → second ≠ ticket

theorem StaysStep.notBehind {requestId : String}
    (step : StaysStep jitterHash ticket before label after)
    (ahead : NotBehind requestId ticket (queueAt before ticket.account)) :
    NotBehind requestId ticket (queueAt after ticket.account) := by
  obtain ⟨taken, stays⟩ := step
  cases taken with
  | operate operation now =>
    obtain ⟨kept, sublist, ⟨-, queue⟩ | ⟨new, source, own, -, queue⟩⟩ :=
      (operation.apply_move jitterHash now before.registry ticket.account).queue
    · rw [queueAt, AccountSystem.perform, queue]
      exact ahead.sublist sublist
    · rw [queueAt, AccountSystem.perform, queue]
      refine List.pairwise_append.2 ⟨ahead.sublist sublist, List.pairwise_singleton _ _, ?_⟩
      intro first _ second last _ same
      -- the one at the end is new, and the ticket is not registered again
      rw [List.mem_singleton.1 last] at same
      exact stays operation rfl (.reregistered operation new source own (by rw [same]))
  | reorder accounts same =>
    rw [queueAt, same.lookup]
    exact ahead

theorem AccountStep.distinctRequests (step : AccountStep jitterHash before label after)
    (account : AccountConcurrencyKey)
    (distinct : ((queueAt before account).map (·.requestId)).Nodup) :
    ((queueAt after account).map (·.requestId)).Nodup := by
  cases step with
  | operate operation now =>
    obtain ⟨kept, sublist, ⟨-, queue⟩ | ⟨new, -, -, others, queue⟩⟩ :=
      (operation.apply_move jitterHash now before.registry account).queue
    · rw [queueAt, AccountSystem.perform, queue]
      exact distinct.sublist (sublist.map _)
    · rw [queueAt, AccountSystem.perform, queue, List.map_append, List.nodup_append]
      refine ⟨distinct.sublist (sublist.map _), List.nodup_singleton _, ?_⟩
      intro first listed second last same
      obtain ⟨other, member, rfl⟩ := List.mem_map.1 listed
      rw [List.map_singleton, List.mem_singleton] at last
      exact others other member (same.trans last)
  | reorder accounts same =>
    rw [queueAt, same.lookup]
    exact distinct

theorem AccountSystem.Reachable.distinctRequests {system : AccountSystem}
    (reachable : system.Reachable jitterHash) (account : AccountConcurrencyKey) :
    ((queueAt system account).map (·.requestId)).Nodup := by
  refine reachable.invariant (fun system => ((queueAt system account).map (·.requestId)).Nodup) ?_
    fun _ _ _ step => step.distinctRequests account
  rintro first ⟨tuning, now, rfl⟩
  exact List.nodup_nil

def EndsBy (deadline : Instant) (ticket : AccountWaitTicket) (system : AccountSystem) : Prop :=
  ∀ record ∈ recordsOf (system.registry.accounts.lookup ticket.account),
    record.ticket.registrationToken = ticket.registrationToken → record.logicalDeadline ≤ deadline

theorem TokenFreshStep.endsBy {deadline : Instant}
    (step : TokenFreshStep jitterHash ticket before label after)
    (ends : EndsBy deadline ticket before) : EndsBy deadline ticket after := by
  obtain ⟨taken, fresh⟩ := step
  intro record listed own
  cases taken with
  | operate operation now =>
    rcases (operation.apply_move jitterHash now before.registry ticket.account).records record listed
      with ⟨old, stored, same, later, -⟩ | ⟨source, -⟩
    · exact later.trans (ends old stored (same ▸ own))
    · exact absurd own (fresh operation rfl record.ticket source)
  | reorder accounts same =>
    rw [same.lookup] at listed
    exact ends record listed own

end Runs

/-- A request has one ticket in the queue of an account at most. A probe is granted to a later
ticket only if the earlier one has left the queue by then or has expired. From its registration and
the budget of that moment on, a ticket is granted nothing, and no call that prunes the account
leaves it in the queue. -/
theorem waiters_are_served_in_order (jitterHash : AccountConcurrencyKey → Nat → Nat) :
    (∀ system : AccountSystem, system.Reachable jitterHash → ∀ account,
      ((queueAt system account).map (·.requestId)).Nodup) ∧
    (∀ (start registered middle joined later : AccountSystem) (first second : AccountWaitTicket)
      (registration joining : AccountOperation),
      RegistersStep jitterHash registration first start registered →
      Transition.Steps (StaysStep jitterHash first) (fun _ _ => True) registered middle →
      RegistersStep jitterHash joining second middle joined → second.account = first.account →
      ¬Departs middle.registry joined.now first joining →
      Transition.Steps (StaysStep jitterHash first) (fun _ _ => True) joined later →
      ∀ now ownerToken lease,
        (later.registry.tryProbe second ownerToken now).2 = .granted lease →
          Expired later.registry now first) ∧
    (∀ (start registered later : AccountSystem) (ticket : AccountWaitTicket)
      (registration : AccountOperation), RegistersStep jitterHash registration ticket start registered →
      (∀ record ∈ recordsOf (start.registry.accounts.lookup ticket.account),
        record.ticket.registrationToken ≠ ticket.registrationToken) →
      Transition.Steps (TokenFreshStep jitterHash ticket) (fun _ _ => True) registered later →
      ∀ now, registered.now + start.registry.tuning.waiterBudget ≤ now →
        (∀ ownerToken lease,
          (later.registry.tryProbe ticket ownerToken now).2 ≠ .granted lease) ∧
        ∀ operation : AccountOperation, operation.Prunes ticket.account →
          (∀ new ∈ operation.registered later.registry now,
            new.registrationToken ≠ ticket.registrationToken) →
          ticket ∉ queueAt (later.perform jitterHash operation now) ticket.account) := by
  refine ⟨fun system reachable account => reachable.distinctRequests account, ?_, ?_⟩
  · intro start registered middle joined later first second registration joining registers waits
      joins own stays run now ownerToken lease granted
    have other : second.requestId ≠ first.requestId := fun again =>
      stays (.reregistered joining second joins.2 own again)
    obtain ⟨kept, -, -, queue⟩ := registers.queue
    have placed : first ∈ queueAt registered first.account := by
      rw [queue]
      exact List.mem_append_right _ (List.mem_singleton_self _)
    have waiting : first ∈ queueAt middle first.account :=
      waits.invariant (fun system => first ∈ queueAt system first.account)
        (fun _ _ _ step _ => step.present) placed
    have behind : NotBehind second.requestId first (queueAt joined first.account) := by
      obtain ⟨earlier, -, others, queue⟩ := joins.queue
      rw [← own, queue]
      refine List.pairwise_append.2 ⟨?_, List.pairwise_singleton _ _, ?_⟩
      · exact (List.pairwise_of_forall_mem_list fun ticket listed _ _ same =>
          absurd same (others ticket listed))
      · intro ticket listed _ _ same
        exact absurd same (others ticket listed)
    obtain ⟨present, order⟩ :=
      run.invariant (fun system => first ∈ queueAt system first.account ∧
        NotBehind second.requestId first (queueAt system first.account))
        (fun _ _ _ step _ known => ⟨step.present known.1, step.notBehind known.2⟩)
        ⟨StaysStep.present ⟨joins.1, by rintro _ ⟨⟩; exact stays⟩ waiting, behind⟩
    by_contra unexpired
    obtain ⟨record, live, same⟩ := live_of_not_expired unexpired present
    obtain ⟨state, head, rest, found, listed, identity, -⟩ :=
      later.registry.tryProbe_granted_head now granted
    rw [own] at found
    rw [found, Option.getD_some, listed] at live
    have asked : head.ticket.requestId = second.requestId := by
      simp only [ticketIdentityMatches, Bool.and_eq_true, beq_iff_eq] at identity
      exact identity.1.1.1.1
    rcases List.mem_cons.1 live with rfl | behindHead
    · exact other (asked.symm.trans (congrArg AccountWaitTicket.requestId same))
    · have pruned : (head.ticket :: rest.map (·.ticket)).Sublist
          (queueAt later first.account) := by
        rw [queueAt, found, ← List.map_cons, ← listed, AccountState.pruneAccount_tickets]
        exact List.filter_sublist.map _
      have later := (List.pairwise_cons.1 (order.sublist pruned)).1 record.ticket
        (List.mem_map.2 ⟨record, behindHead, rfl⟩) asked
      exact later same
  · intro start registered later ticket registration registers unused run now isOver
    have ends : EndsBy (registered.now + start.registry.tuning.waiterBudget) ticket later := by
      refine run.invariant (EndsBy _ ticket) (fun _ _ _ step _ => step.endsBy) ?_
      obtain ⟨taken, source⟩ := registers
      cases taken with
      | operate _ moment =>
        intro record listed same
        rcases (registration.apply_move jitterHash moment start.registry ticket.account).records record
          listed with ⟨old, stored, owner, -⟩ | ⟨-, deadline⟩
        · exact absurd (owner ▸ same) (unused old stored)
        · exact Nat.le_of_eq deadline
    refine ⟨fun ownerToken lease granted => ?_, fun operation prunes fresh present => ?_⟩
    · obtain ⟨state, head, rest, found, listed, identity, -⟩ :=
        later.registry.tryProbe_granted_head now granted
      have member : head ∈ (state.pruneAccount now).tickets := listed ▸ List.mem_cons_self
      rw [AccountState.pruneAccount_tickets, List.mem_filter, Bool.and_eq_true,
        decide_eq_true_eq] at member
      simp only [ticketIdentityMatches, Bool.and_eq_true, beq_iff_eq] at identity
      have ended := ends head (by rw [found]; exact member.1) identity.2
      exact absurd member.2.1 (Nat.not_lt.2 (ended.trans isOver))
    · obtain ⟨record, listed, own⟩ := List.mem_map.1 present
      rcases (operation.apply_move jitterHash now later.registry ticket.account).records record listed
        with ⟨old, stored, owner, -, live⟩ | ⟨source, -⟩
      · have ended := ends old stored (by rw [owner, own])
        exact absurd (live prunes) (Nat.not_lt.2 (ended.trans isOver))
      · exact fresh record.ticket source (by rw [own])

def twoWaiters : AccountSystem :=
  waitingAccounts.perform (fun _ _ => 0)
    (.registerWaiter exampleAccount "other" "downstream" "lease" "second") 0

def firstTicket : AccountWaitTicket :=
  ⟨exampleAccount, "request", "downstream", "lease", 0, 0, "ticket"⟩

def secondTicket : AccountWaitTicket :=
  ⟨exampleAccount, "other", "downstream", "lease", 0, 0, "second"⟩

theorem waiters_are_served_in_order_for_two :
    (∀ ownerToken lease, (twoWaiters.registry.tryProbe secondTicket ownerToken 0).2 =
        .granted lease → Expired twoWaiters.registry 0 firstTicket) ∧
      ∀ ownerToken lease, (waitingAccounts.registry.tryProbe firstTicket ownerToken
        (Duration.fromSecs 30)).2 ≠ .granted lease := by
  obtain ⟨-, served, bounded⟩ := waiters_are_served_in_order (fun _ _ => 0)
  have registers : RegistersStep (fun _ _ => 0)
      (.registerWaiter exampleAccount "request" "downstream" "lease" "ticket") firstTicket
      (AccountSystem.start _ 0) waitingAccounts := ⟨.operate _ _ 0 (Nat.le_refl 0) trivial, rfl⟩
  constructor
  · refine served _ waitingAccounts waitingAccounts twoWaiters twoWaiters firstTicket secondTicket _
      (.registerWaiter exampleAccount "other" "downstream" "lease" "second") registers .refl
      ⟨.operate _ _ 0 (Nat.le_refl 0) trivial, rfl⟩ rfl ?_ .refl 0
    intro departs
    cases departs with
    | reregistered _ new source own again =>
      cases source
      exact absurd again (by decide)
    | expired _ late =>
      obtain ⟨record, listed, -, passed⟩ := late
      have live : (recordsOf (waitingAccounts.registry.accounts.lookup exampleAccount)).all
          (fun record => 0 < record.logicalDeadline && 0 < record.leaseDeadline) = true := by
        decide +kernel
      have later := List.all_eq_true.1 live record listed
      simp only [Bool.and_eq_true, decide_eq_true_eq] at later
      rcases passed with isOver | isOver
      · exact absurd later.1 (Nat.not_lt.2 isOver)
      · exact absurd later.2 (Nat.not_lt.2 isOver)
  · exact (bounded _ waitingAccounts waitingAccounts firstTicket _ registers nofun .refl
      (Duration.fromSecs 30) (by decide +kernel)).1

/-- The waiter has a budget of 30 s. A waiter that is cancelled after 31 s leaves it at the head. -/
theorem expired_head_survives_cancellation :
    ∃ system : AccountSystem,
      RegistersStep (fun _ _ => 0)
        (.registerWaiter exampleAccount "request" "downstream" "lease" "ticket") firstTicket
        (AccountSystem.start waitingAccounts.registry.tuning 0) waitingAccounts ∧
      Transition.Steps (TokenFreshStep (fun _ _ => 0) firstTicket) (fun _ _ => True)
        waitingAccounts system ∧
      waitingAccounts.now + waitingAccounts.registry.tuning.waiterBudget ≤ system.now ∧
      (queueAt system exampleAccount).head? = some firstTicket := by
  let cancelled := waitingAccounts.perform (fun _ _ => 0) (.cancelWaiter secondTicket)
    (Duration.fromSecs 31)
  refine ⟨cancelled, ⟨.operate _ _ 0 (Nat.le_refl 0) trivial, rfl⟩,
    .single ⟨some (.cancelWaiter secondTicket), ⟨?_, ?_⟩, trivial⟩, by decide +kernel,
    by decide +kernel⟩
  · exact .operate _ _ _ (Nat.zero_le _) trivial
  · rintro _ ⟨⟩ _ ⟨⟩

end ChatGateway
