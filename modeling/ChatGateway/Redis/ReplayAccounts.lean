import ChatGateway.Redis.AccountScripts
import ChatGateway.Redis.ReplayQuotas

set_option autoImplicit false

/-!
# Replaying account operations

A rejection and a finished probe leave a marker, a granted probe carries the token of its owner and
a waiting request the token of its registration.
-/

namespace ChatGateway

def MarkerLasts {V : Type} (now : Int) (marker : Option (Expiring V)) : Prop :=
  ∃ entry, marker = some entry ∧ entry.expiresAt.all (now ≤ ·)

namespace AccountKeys

variable (keys : AccountKeys) (now : Int)

@[simp] theorem pruneProbe_mutation : (keys.pruneProbe now).mutation = keys.mutation := by
  unfold pruneProbe
  split <;> rfl

@[simp] theorem pruneProbe_leases : (keys.pruneProbe now).leases = keys.leases := by
  unfold pruneProbe
  split <;> rfl

@[simp] theorem prune_mutation : (keys.prune now).mutation = keys.mutation :=
  pruneProbe_mutation _ now

@[simp] theorem keepState_mutation (retentionMs : Int) :
    (keys.keepState now retentionMs).mutation = keys.mutation := by
  unfold keepState
  split <;> rfl

@[simp] theorem keepState_probe (retentionMs : Int) :
    (keys.keepState now retentionMs).probe = keys.probe := by
  unfold keepState
  split <;> rfl

@[simp] theorem keepState_leases (retentionMs : Int) :
    (keys.keepState now retentionMs).leases = keys.leases := by
  unfold keepState
  split <;> rfl

@[simp] theorem keepState_waiting (retentionMs : Int) :
    (keys.keepState now retentionMs).waiting = keys.waiting := by
  unfold keepState
  split <;> rfl

@[simp] theorem keepState_tickets (retentionMs : Int) :
    (keys.keepState now retentionMs).tickets = keys.tickets := by
  unfold keepState
  split <;> rfl

theorem marked_mutation (value : Int) :
    ((keys.markMutation now value).retainState now).mutation =
      some { value := value, expiresAt := some (now + 60000) } := by
  rw [retainState, keepState_mutation]
  rfl

theorem marked_lasts (value : Int) {later : Int} (within : later < now + 60000) :
    MarkerLasts later ((keys.markMutation now value).retainState now).mutation :=
  ⟨_, keys.marked_mutation now value, by simpa using Int.le_of_lt within⟩

end AccountKeys

/-- The `reject` operation finds the marker with the generation it was given. -/
def accountProbeRejectReplay (digest : String → Nat) (args : RejectionArgs) :
    ReplayScheme AccountKeys AccountReply (Option (Expiring Int)) where
  run := accountProbeReject digest args
  committed reply := reply ≠ .invalid
  found := AccountKeys.live
  record := AccountKeys.mutation
  keeps := Eq
  current := MarkerLasts
  tidy := AccountKeys.prune

theorem accountProbeReject_safe (digest : String → Nat) (args : RejectionArgs) :
    (accountProbeRejectReplay digest args).Safe (fun _ keys => keys.mutation = none) 60000 := by
  refine ⟨ReplayScheme.harmless_of_replies
    (fun marker =>
      if args.delays.isEmpty then .invalid else .rejected ((marker.map Expiring.value).getD 0))
    ?_ ?_ ?_, ?_⟩
  · intro now later keys committed _
    simp only [accountProbeRejectReplay, accountProbeReject] at committed ⊢
    split at committed
    next => exact absurd rfl committed
    next delayed =>
      simp only [if_neg delayed]
      split
      next marker found =>
        rw [found]
        rfl
      next => simp [AccountKeys.marked_mutation]
  · rintro now marker _ rfl current
    exact ⟨current, rfl⟩
  · rintro now keys ⟨marker, found, -⟩
    have kept : ((keys.live now).prune now).mutation = some marker := by
      rw [AccountKeys.prune_mutation]
      exact found
    simp only [accountProbeRejectReplay, accountProbeReject, kept] at found ⊢
    split
    next => rfl
    next =>
      rw [found]
      rfl
  · intro first second keys unused committed _ within
    have missing : ((keys.live first).prune first).mutation = none := by
      rw [AccountKeys.prune_mutation]
      exact unused
    simp only [accountProbeRejectReplay, accountProbeReject, missing] at committed ⊢
    split at committed
    next => exact absurd rfl committed
    next delayed =>
      rw [if_neg delayed]
      exact AccountKeys.marked_lasts _ first _ within

/-- The `finish` operation finds its marker. -/
def accountProbeFinishReplay (digest : String → Nat) (args : FinishProbeArgs) :
    ReplayScheme AccountKeys AccountReply (Option (Expiring Int)) where
  run := accountProbeFinish digest args
  committed reply := reply = .done
  found := AccountKeys.live
  record := AccountKeys.mutation
  keeps := Eq
  current := MarkerLasts
  tidy := AccountKeys.prune

theorem AccountKeys.finishOutcome_marks {digest : String → Nat} {now : Int}
    {outcome : FinishProbeOutcome} {keys : AccountKeys}
    (done : (keys.finishOutcome digest now outcome).1 = .done) :
    ∃ settled : AccountKeys,
      (keys.finishOutcome digest now outcome).2 = (settled.markMutation now 1).retainState now := by
  unfold finishOutcome at done ⊢
  cases outcome with
  | accepted | attemptFailed | cancelled => exact ⟨_, rfl⟩
  | concurrencyRejected rejection =>
    dsimp only at done ⊢
    split at done
    next => cases done
    next delayed =>
      rw [if_neg delayed]
      exact ⟨_, rfl⟩
  | unknown => cases done

theorem accountProbeFinish_safe (digest : String → Nat) (args : FinishProbeArgs) :
    (accountProbeFinishReplay digest args).Safe (fun _ keys => keys.mutation = none) 60000 := by
  refine ⟨ReplayScheme.harmless_of_reply .done (fun _ => id)
    (fun _ _ _ same current => same ▸ current) ?_, ?_⟩
  · rintro now keys ⟨marker, found, -⟩
    have kept : ((keys.live now).prune now).mutation = some marker := by
      rw [AccountKeys.prune_mutation]
      exact found
    exact if_pos (by rw [kept]; rfl)
  · intro first second keys unused committed _ within
    have missing : ((keys.live first).prune first).mutation = none := by
      rw [AccountKeys.prune_mutation]
      exact unused
    simp only [accountProbeFinishReplay, accountProbeFinish, missing, Option.isSome_none,
      Bool.false_eq_true, if_false] at committed ⊢
    split at committed
    next => cases committed
    next owned =>
      obtain ⟨settled, left⟩ := AccountKeys.finishOutcome_marks committed
      rw [if_neg owned, left]
      exact settled.marked_lasts first 1 within

structure GrantRecord where
  probe : Option ProbeHash
  lease : Option Int
  waiting : Option Int
  deriving DecidableEq, Repr

def AccountKeys.grantRecord (args : GrantArgs) (keys : AccountKeys) : GrantRecord where
  probe := keys.probe.map Expiring.value
  lease := args.atomicDownstream.bind keys.leases.zscore
  waiting := args.atomicDownstream.bind keys.waiting.zscore

structure GrantKept (old new : GrantRecord) : Prop where
  probe : old.probe = new.probe
  lease : ScoreRenewed old.lease new.lease
  waiting : old.waiting = new.waiting

structure GrantCurrent (args : GrantArgs) (now : Int) (record : GrantRecord) : Prop where
  probe : record.probe.any (args.ownsProbe now)
  lease : args.atomicDownstream.isSome → ScoreAfter now record.lease
  waiting : record.waiting = none

theorem GrantCurrent.kept {args : GrantArgs} {now : Int} {old new : GrantRecord}
    (current : GrantCurrent args now old) (kept : GrantKept old new) :
    GrantCurrent args now new := by
  refine ⟨kept.probe ▸ current.probe, fun atomic => ?_, kept.waiting ▸ current.waiting⟩
  obtain ⟨score, found, later⟩ := current.lease atomic
  obtain ⟨renewed, present, longer⟩ := kept.lease score found
  exact ⟨renewed, present, by omega⟩

/-- The `grant` operation finds a probe with its owner token. -/
def accountProbeGrantReplay (args : GrantArgs) :
    ReplayScheme AccountKeys AccountReply GrantRecord where
  run := accountProbeGrant args
  committed reply := ∃ generation expiresAt, reply = .granted generation args.ownerToken expiresAt
  found := AccountKeys.live
  record := AccountKeys.grantRecord args
  keeps := GrantKept
  current := GrantCurrent args
  tidy now keys := (keys.prune now).pruneLeases now args

def grantReply (args : GrantArgs) (record : GrantRecord) : AccountReply :=
  record.probe.elim .invalid fun probe => .granted probe.generation args.ownerToken probe.expiresAt

namespace AccountKeys

variable {args : GrantArgs} {now : Int} {keys : AccountKeys}

theorem pruneLeases_probe : (keys.pruneLeases now args).probe = keys.probe := by
  unfold pruneLeases
  split <;> rfl

theorem pruneProbe_of_owned (keys : AccountKeys) {probe : Expiring ProbeHash}
    (found : keys.probe = some probe) (owned : args.ownsProbe now probe.value) : keys.pruneProbe now = keys := by
  have later : probe.value.expiresAt > now := by
    simp only [GrantArgs.ownsProbe, decide_eq_true_eq] at owned
    exact owned.2.2
  rw [pruneProbe, if_neg]
  simp only [probeExpired, found, Option.any_some, decide_eq_true_eq]
  omega

theorem grantRecord_pruned (current : GrantCurrent args now (keys.grantRecord args)) :
    ((keys.prune now).pruneLeases now args).grantRecord args = keys.grantRecord args := by
  obtain ⟨probe, lease, waiting⟩ := current
  obtain ⟨value, found, owned⟩ := (Option.any_eq_true _ _).mp probe
  obtain ⟨entry, present, rfl⟩ := Option.map_eq_some_iff.mp found
  have pruned : keys.prune now = keys.pruneWaiters now :=
    (keys.pruneWaiters now).pruneProbe_of_owned present owned
  rw [pruned]
  unfold grantRecord pruneLeases at *
  cases atomic : args.atomicDownstream with
  | none => rfl
  | some leaseId =>
    simp only [atomic, Option.isSome_some, if_true, Option.bind_some, forall_const] at lease waiting ⊢
    have kept := lease.pruned
    simp only [pruneWaiters, kept, waiting, zscore_pruned_none waiting]

theorem stopWaiting_of_stopped (stopped : (keys.grantRecord args).waiting = none) :
    keys.stopWaiting args = keys := by
  unfold stopWaiting grantRecord at *
  cases atomic : args.atomicDownstream with
  | none => rfl
  | some leaseId =>
    simp only [atomic, Option.bind_some] at stopped
    simp only [Option.elim_some, Volatile.zrem_of_missing stopped]

theorem stopWaiting_record (args : GrantArgs) (keys : AccountKeys) :
    (keys.stopWaiting args).grantRecord args = { keys.grantRecord args with waiting := none } := by
  unfold stopWaiting grantRecord
  cases atomic : args.atomicDownstream with
  | none => simp
  | some leaseId => simp [Volatile.zscore_zrem]

theorem startProbe_record (args : GrantArgs) (now : Int) (keys : AccountKeys)
    (positive : 0 < args.probeTtlMs + 60000) :
    (keys.startProbe now args).2.grantRecord args =
      { probe := some ⟨args.requestId, keys.hash.generationOrZero, args.ownerToken,
          now + args.probeTtlMs⟩
        lease := (keys.grantRecord args).lease
        waiting := none } := by
  have expires : ¬ args.probeTtlMs + 60000 ≤ 0 := by omega
  cases atomic : args.atomicDownstream with
  | none =>
    simp [startProbe, grantRecord, writeState, Expiring.pexpire, Expiring.write, expires, atomic]
  | some leaseId =>
    simp [startProbe, grantRecord, writeState, Expiring.pexpire, Expiring.write, expires, atomic,
      stopWaiting, dropTicket, Volatile.zscore_zrem]

theorem leased_of_unrefused (admitted : keys.grantRefusal now args = none)
    (atomic : args.atomicDownstream.isSome) : (keys.grantRecord args).lease.isSome := by
  obtain ⟨leaseId, found⟩ := Option.isSome_iff_exists.mp atomic
  by_contra unleased
  have missing : keys.leases.zscore leaseId = none := by simpa [grantRecord, found] using unleased
  -- Without the lease the last check refuses, whatever the ones before it say.
  unfold grantRefusal at admitted
  simp only [found, Option.any_some, missing, Option.isNone_none, Bool.true_or, if_true] at admitted
  repeat' split at admitted
  all_goals cases admitted

end AccountKeys

theorem AccountKeys.grantRefusal_ne_granted {args : GrantArgs} {now : Int} {keys : AccountKeys}
    {reply : AccountReply} (refused : keys.grantRefusal now args = some reply)
    (generation : Int) (ownerToken : String) (expiresAt : Int) :
    reply ≠ .granted generation ownerToken expiresAt := by
  rintro rfl
  unfold grantRefusal at refused
  dsimp only at refused
  repeat' split at refused
  all_goals cases refused

theorem AccountKeys.startProbe_reply {args : GrantArgs} {now later : Int} {keys : AccountKeys}
    (current : GrantCurrent args later ((keys.startProbe now args).2.grantRecord args)) :
    (keys.startProbe now args).1 = grantReply args ((keys.startProbe now args).2.grantRecord args) := by
  have positive : 0 < args.probeTtlMs + 60000 := by
    by_contra spent
    have expired : args.probeTtlMs + 60000 ≤ 0 := by omega
    have held := current.probe
    simp [startProbe, grantRecord, writeState, Expiring.pexpire, expired] at held
  rw [startProbe_record _ _ _ positive]
  rfl

theorem AccountKeys.probe_of_pruned {args : GrantArgs} {now : Int} {keys : AccountKeys}
    {probe : Expiring ProbeHash} (found : ((keys.prune now).pruneLeases now args).probe = some probe) :
    keys.probe = some probe := by
  rw [pruneLeases_probe, prune, pruneProbe] at found
  split at found
  · cases found
  · exact found

theorem AccountKeys.lease_of_pruned {args : GrantArgs} {now : Int} {keys : AccountKeys}
    {leaseId : String} {score : Int}
    (found : ((keys.prune now).pruneLeases now args).leases.zscore leaseId = some score) :
    keys.leases.zscore leaseId = some score := by
  have same : (keys.prune now).leases = keys.leases := pruneProbe_leases _ now
  unfold pruneLeases at found
  split at found
  · rw [Volatile.zscore_zremrangebyscore, same] at found
    exact (Option.filter_eq_some_iff.mp found).1
  · rwa [same] at found

theorem accountProbeGrant_of_current {args : GrantArgs} {now : Int} {keys : AccountKeys}
    (current : GrantCurrent args now ((keys.live now).grantRecord args)) :
    accountProbeGrant args now keys =
      (grantReply args ((keys.live now).grantRecord args),
        ((keys.live now).prune now).pruneLeases now args) := by
  have pruned := AccountKeys.grantRecord_pruned current
  have still := pruned ▸ current
  obtain ⟨value, recorded, owned⟩ := (Option.any_eq_true _ _).mp still.probe
  obtain ⟨probe, found, rfl⟩ := Option.map_eq_some_iff.mp recorded
  have leased : ¬ args.atomicDownstream.any fun lease =>
      ((((keys.live now).prune now).pruneLeases now args).leases.zscore lease).isNone := by
    cases atomic : args.atomicDownstream with
    | none => simp
    | some leaseId =>
      have held := (still.lease (by rw [atomic]; rfl)).isSome
      simp only [AccountKeys.grantRecord, atomic, Option.bind_some] at held
      simpa [← Option.isSome_iff_ne_none] using held
  have reply : grantReply args ((keys.live now).grantRecord args) =
      .granted probe.value.generation args.ownerToken probe.value.expiresAt := by
    rw [← pruned, grantReply, recorded]
    rfl
  rw [reply]
  simp only [accountProbeGrant, found, Option.filter_some, owned, if_true, if_neg leased,
    AccountKeys.stopWaiting_of_stopped still.waiting]

theorem accountProbeGrant_safe (args : GrantArgs) :
    (accountProbeGrantReplay args).Safe
      (fun now keys => (∀ probe, keys.probe = some probe → probe.value.ownerToken ≠ args.ownerToken) ∧
        ∀ leaseId, args.atomicDownstream = some leaseId →
          ∀ score, keys.leases.zscore leaseId = some score → now + args.probeTtlMs ≤ score)
      args.probeTtlMs := by
  refine ⟨ReplayScheme.harmless_of_replies (grantReply args) ?_
    (fun _ _ _ kept current => ⟨current.kept kept, by simp only [grantReply, kept.probe]⟩) ?_, ?_⟩
  · rintro now later keys ⟨generation, expiresAt, granted⟩ current
    simp only [accountProbeGrantReplay, accountProbeGrant] at granted current ⊢
    split at granted
    next probe found =>
      simp only [found] at current ⊢
      split at granted
      next => cases granted
      next leased =>
        obtain ⟨present, -⟩ := Option.filter_eq_some_iff.mp found
        rw [if_neg leased, AccountKeys.stopWaiting_record, grantReply, AccountKeys.grantRecord,
          present]
        rfl
    next unowned =>
      simp only [unowned] at current ⊢
      split at granted
      next reply refused =>
        exact absurd granted (AccountKeys.grantRefusal_ne_granted refused _ _ _)
      next admitted =>
        simp only [admitted] at current ⊢
        exact AccountKeys.startProbe_reply current
  · exact fun now keys current => accountProbeGrant_of_current current
  · rintro first second keys ⟨unowned, lasting⟩ ⟨generation, expiresAt, granted⟩ forward within
    have free : (((keys.live first).prune first).pruneLeases first args).probe.filter
        (fun probe => args.ownsProbe first probe.value) = none := by
      rw [Option.filter_eq_none_iff]
      intro probe found owned
      simp only [GrantArgs.ownsProbe, decide_eq_true_eq] at owned
      exact unowned probe (AccountKeys.probe_of_pruned found) owned.2.1
    simp only [accountProbeGrantReplay, accountProbeGrant, free] at granted ⊢
    split at granted
    next reply refused =>
      exact absurd granted (AccountKeys.grantRefusal_ne_granted refused _ _ _)
    next admitted =>
      rw [AccountKeys.startProbe_record _ _ _ (by omega)]
      refine ⟨?_, fun atomic => ?_, rfl⟩
      · simp only [Option.any_some, GrantArgs.ownsProbe, decide_eq_true_eq]
        exact ⟨trivial, trivial, within⟩
      · obtain ⟨score, held⟩ :=
          Option.isSome_iff_exists.mp (AccountKeys.leased_of_unrefused admitted atomic)
        obtain ⟨leaseId, found⟩ := Option.isSome_iff_exists.mp atomic
        refine ⟨score, held, ?_⟩
        rw [AccountKeys.grantRecord, found, Option.bind_some] at held
        have lasts := lasting leaseId found score (AccountKeys.lease_of_pruned held)
        omega

structure RegisterRecord where
  ticket : Option WaiterTicket
  saturated : Bool
  deriving DecidableEq, Repr

def AccountKeys.registerRecord (args : RegisterArgs) (keys : AccountKeys) : RegisterRecord where
  ticket := keys.ticketOf args.requestId
  saturated := keys.hash.saturated

structure RegisterKept (args : RegisterArgs) (old new : RegisterRecord) : Prop where
  ticket : old.ticket = new.ticket
  saturated : args.onlyIfSaturated → new.saturated

structure RegisterCurrent (args : RegisterArgs) (now : Int) (record : RegisterRecord) : Prop where
  ticket : ∃ ticket, record.ticket = some ticket ∧
    ticket.registrationToken = args.registrationToken ∧
    AccountKeys.deadTicket now (some ticket) = false
  saturated : args.onlyIfSaturated → record.saturated

def registerReply (record : RegisterRecord) : AccountReply :=
  record.ticket.elim .invalid fun ticket => .registered ticket.generation ticket.registeredAtMs

/-- The `register` operations find the ticket with their registration token. -/
def accountWaiterRegisterReplay (args : RegisterArgs) :
    ReplayScheme AccountKeys AccountReply RegisterRecord where
  run := accountWaiterRegister args
  committed reply := ∃ generation registeredAtMs, reply = .registered generation registeredAtMs
  found := AccountKeys.live
  record := AccountKeys.registerRecord args
  keeps := RegisterKept args
  current := RegisterCurrent args
  tidy := AccountKeys.pruneWaiters

namespace AccountKeys

variable {args : RegisterArgs} {now : Int} {keys : AccountKeys}

theorem ticketOf_pruned (keys : AccountKeys) (now : Int) (requestId : String) :
    (keys.pruneWaiters now).ticketOf requestId =
      (keys.ticketOf requestId).filter fun ticket => !deadTicket now (some ticket) := by
  unfold ticketOf pruneWaiters
  rw [Volatile.update_entries, Table.lookup_retain]
  cases keys.tickets.entries.lookup requestId with
  | none => rfl
  | some stored =>
    cases stored with
    | none => rfl
    | some ticket =>
      rw [Option.filter_some, Option.join_some, Option.filter_some]
      split <;> rfl

theorem keepState_hash (retentionMs : Int) (positive : 0 < retentionMs) :
    (keys.keepState now retentionMs).hash = keys.hash := by
  unfold keepState
  split
  · simp only [hash, Expiring.pexpire, if_neg (Int.not_le.mpr positive), Option.map_map]
    rfl
  · rfl

theorem enqueue_record (args : RegisterArgs) (now : Int) (keys : AccountKeys)
    (positive : 0 < args.waiterTtlMs + 600000) :
    (keys.enqueue now args).2.registerRecord args =
      { ticket := some
          { requestId := args.requestId
            downstreamId := args.downstreamId
            downstreamLeaseId := args.downstreamLeaseId
            generation := keys.hash.generationOrZero
            registrationToken := args.registrationToken
            registeredAtMs := now
            logicalDeadline := now + args.waiterBudgetMs
            leaseDeadline := now + args.waiterTtlMs }
        saturated := keys.hash.saturated } := by
  simp only [enqueue, registerRecord, keepState_hash _ positive, ticketOf, keepState_tickets,
    Volatile.pexpire_entries _ _ positive, Volatile.update_entries, AList.lookup_insert,
    Option.join_some]
  rfl

-- The reply of a request that was just registered is the one its record determines.
theorem enqueue_reply {later : Int}
    (current : RegisterCurrent args later ((keys.enqueue now args).2.registerRecord args)) :
    (keys.enqueue now args).1 = registerReply ((keys.enqueue now args).2.registerRecord args) := by
  have positive : 0 < args.waiterTtlMs + 600000 := by
    by_contra spent
    obtain ⟨ticket, found, -⟩ := current.ticket
    have expired : args.waiterTtlMs + 600000 ≤ 0 := by omega
    simp [enqueue, registerRecord, ticketOf, Volatile.pexpire, expired] at found
  rw [enqueue_record _ _ _ positive]
  rfl

end AccountKeys

theorem accountWaiterRegister_of_current {args : RegisterArgs} {now : Int} {keys : AccountKeys}
    (current : RegisterCurrent args now ((keys.live now).registerRecord args)) :
    accountWaiterRegister args now keys =
      (registerReply ((keys.live now).registerRecord args), (keys.live now).pruneWaiters now) := by
  obtain ⟨⟨ticket, found, token, alive⟩, saturated⟩ := current
  have pruned : ((keys.live now).pruneWaiters now).ticketOf args.requestId = some ticket := by
    rw [AccountKeys.ticketOf_pruned, show (keys.live now).ticketOf args.requestId = _ from found,
      Option.filter_some, alive]
    rfl
  have open' : ¬ (args.onlyIfSaturated ∧ !((keys.live now).pruneWaiters now).hash.saturated) := by
    rintro ⟨only, free⟩
    have held : ((keys.live now).pruneWaiters now).hash.saturated = true := saturated only
    simp [held] at free
  simp only [accountWaiterRegister, if_neg open', pruned, Option.filter_some, token, decide_true,
    if_true, registerReply, found, Option.elim_some]

theorem accountWaiterRegister_safe (args : RegisterArgs) :
    (accountWaiterRegisterReplay args).Safe
      (fun _ keys => ∀ ticket, keys.ticketOf args.requestId = some ticket →
        ticket.registrationToken ≠ args.registrationToken)
      (min args.waiterBudgetMs args.waiterTtlMs) := by
  refine ⟨ReplayScheme.harmless_of_replies registerReply ?_ ?_ ?_, ?_⟩
  · rintro now later keys ⟨generation, registeredAtMs, registered⟩ current
    simp only [accountWaiterRegisterReplay, accountWaiterRegister] at registered current ⊢
    split at registered
    next => cases registered
    next unbarred =>
      rw [if_neg unbarred] at current ⊢
      split at registered
      next ticket found =>
        obtain ⟨held, -⟩ := Option.filter_eq_some_iff.mp found
        simp only [registerReply, AccountKeys.registerRecord, held, Option.elim_some]
      next unowned =>
        simp only [unowned] at current ⊢
        exact AccountKeys.enqueue_reply current
  · intro now old new kept current
    exact ⟨⟨kept.ticket ▸ current.ticket, kept.saturated⟩,
      by simp only [registerReply, kept.ticket]⟩
  · exact fun now keys current => accountWaiterRegister_of_current current
  · rintro first second keys unused ⟨generation, registeredAtMs, registered⟩ forward within
    have free : (((keys.live first).pruneWaiters first).ticketOf args.requestId).filter
        (·.registrationToken = args.registrationToken) = none := by
      rw [Option.filter_eq_none_iff]
      intro ticket found token
      rw [AccountKeys.ticketOf_pruned] at found
      exact unused ticket (Option.filter_eq_some_iff.mp found).1 (by simpa using token)
    simp only [accountWaiterRegisterReplay, accountWaiterRegister, free] at registered ⊢
    split at registered
    next => cases registered
    next unbarred =>
      rw [if_neg unbarred, AccountKeys.enqueue_record _ _ _ (by omega)]
      refine ⟨⟨_, rfl, rfl, ?_⟩, fun only => ?_⟩
      · simp only [AccountKeys.deadTicket, Bool.or_eq_false_iff, decide_eq_false_iff_not]
        omega
      · by_contra free
        exact unbarred ⟨only, by simpa using free⟩

end ChatGateway
