import ChatGateway.Account.Effects
import ChatGateway.Shared.Transition

set_option autoImplicit false

/-!
# One probe at a time

The ownership of account probes along every run. Owner tokens are uuids: no two grants draw the
same one.
-/

namespace ChatGateway

structure AccountSystem where
  registry : AccountConcurrencyRegistry
  now : Instant
  leases : List AccountProbeLease

namespace AccountSystem

def start (tuning : AccountConcurrencyTuning) (now : Instant) : AccountSystem where
  registry := .new tuning now
  now := now
  leases := []

def Initial (system : AccountSystem) : Prop :=
  ∃ tuning now, system = start tuning now

def perform (jitterHash : AccountConcurrencyKey → Nat → Nat) (system : AccountSystem)
    (operation : AccountOperation) (now : Instant) : AccountSystem :=
  let performed := operation.apply jitterHash now system.registry
  { registry := performed.1
    now := now
    leases := performed.2.toList ++ system.leases }

end AccountSystem

def AccountOperation.DrawsFresh (leases : List AccountProbeLease) : AccountOperation → Prop
  | .tryProbe _ ownerToken => ∀ lease ∈ leases, lease.ownerToken ≠ ownerToken
  | _ => True

section Runs

variable (jitterHash : AccountConcurrencyKey → Nat → Nat)

inductive AccountStep : AccountSystem → Option AccountOperation → AccountSystem → Prop
  | operate (system : AccountSystem) (operation : AccountOperation) (now : Instant)
      (forward : system.now ≤ now) (fresh : operation.DrawsFresh system.leases) :
      AccountStep system (some operation) (system.perform jitterHash operation now)
  | reorder (system : AccountSystem) (accounts : Table AccountConcurrencyKey AccountState)
      (same : system.registry.accounts.Reordered accounts) :
      AccountStep system none { system with registry := { system.registry with accounts := accounts } }

abbrev AccountSystem.Reachable : AccountSystem → Prop :=
  Transition.Reachable AccountSystem.Initial (AccountStep jitterHash)

end Runs

structure AccountInvariant (system : AccountSystem) : Prop where
  sound : ∀ account, AccountSound account (system.now + system.registry.tuning.probeTtl)
    (system.registry.accounts.lookup account)
  issued : ∀ account state probe, system.registry.accounts.lookup account = some state →
    state.probe = some probe → ∃ lease ∈ system.leases, SameProbe lease probe.lease
  distinct : (system.leases.map (·.ownerToken)).Nodup

theorem AccountSound.mono {account : AccountConcurrencyKey} {earlier later : Instant}
    {entry : Option AccountState} (sound : AccountSound account earlier entry)
    (after : earlier ≤ later) : AccountSound account later entry := by
  intro state probe found present
  have kept := sound state probe found present
  exact ⟨kept.account, kept.generation, Nat.le_trans kept.expiry after⟩

/-- `lease` is the probe its account records, live until `expiresAt`. -/
def AccountConcurrencyRegistry.Records (registry : AccountConcurrencyRegistry)
    (lease : AccountProbeLease) (expiresAt : Instant) : Prop :=
  ∃ state probe, registry.accounts.lookup lease.account = some state ∧
    state.probe = some probe ∧ SameProbe probe.lease lease ∧ probe.expiresAt = expiresAt

theorem AccountConcurrencyRegistry.tryProbe_granted {registry : AccountConcurrencyRegistry}
    {ticket : AccountWaitTicket} {ownerToken : String} {now : Instant} {lease : AccountProbeLease}
    (granted : grantedLease (registry.tryProbe ticket ownerToken now).2 = some lease) :
    lease.ownerToken = ownerToken ∧ (registry.tryProbe ticket ownerToken now).1.Records lease
      (now + registry.tuning.probeTtl) := by
  unfold tryProbe at granted ⊢
  cases found : registry.accounts.lookup ticket.account with
  | none =>
    rw [found] at granted
    cases granted
  | some state =>
    rw [found] at granted
    dsimp only at granted ⊢
    split at granted
    next => cases granted
    next record matched =>
      split at granted
      next => cases granted
      next current =>
        split at granted
        next => cases granted
        next first =>
          split at granted
          next => cases granted
          next idle =>
            split at granted
            next => cases granted
            next due =>
              cases granted
              refine ⟨rfl, ?_⟩
              rw [if_neg current, if_neg first, if_neg due]
              exact ⟨_, _, by rw [lookup_setAccount, if_pos rfl, found, Option.map_some], rfl,
                ⟨rfl, rfl, rfl, rfl⟩, rfl⟩

theorem AccountOperation.apply_granted {jitterHash : AccountConcurrencyKey → Nat → Nat}
    {operation : AccountOperation} {now : Instant} {registry : AccountConcurrencyRegistry}
    {lease : AccountProbeLease} {leases : List AccountProbeLease}
    (fresh : operation.DrawsFresh leases)
    (granted : (operation.apply jitterHash now registry).2 = some lease) :
    ∀ older ∈ leases, lease.ownerToken ≠ older.ownerToken := by
  cases operation with
  | tryProbe ticket ownerToken =>
    intro older member same
    rw [(AccountConcurrencyRegistry.tryProbe_granted granted).1] at same
    exact fresh older member same.symm
  | _ => cases granted

theorem AccountStep.invariant {jitterHash : AccountConcurrencyKey → Nat → Nat}
    {before after : AccountSystem} {label : Option AccountOperation}
    (step : AccountStep jitterHash before label after) (invariant : AccountInvariant before) :
    AccountInvariant after := by
  cases step with
  | reorder accounts same =>
    refine ⟨fun account => ?_, fun account state probe found => ?_, invariant.distinct⟩
    · rw [same.lookup]
      exact invariant.sound account
    · rw [same.lookup] at found
      exact invariant.issued account state probe found
  | operate operation now forward fresh =>
    have effects := operation.apply_effects jitterHash now before.registry
    refine ⟨fun account => ?_, fun account state probe found present => ?_, ?_⟩
    · have ttl := operation.apply_probeTtl jitterHash now before.registry
      simp only [AccountSystem.perform, ttl]
      exact (effects account).sound
        ((invariant.sound account).mono (Nat.add_le_add_right forward _))
    · rcases (effects account).origin found present with
        ⟨earlier, recorded, start, held, same⟩ | ⟨lease, granted, same⟩
      · obtain ⟨lease, member, origin⟩ := invariant.issued account earlier recorded start held
        exact ⟨lease, List.mem_append_right _ member, origin.trans same⟩
      · exact ⟨lease, List.mem_append_left _ (by simp [granted]), same⟩
    · cases granted : (operation.apply jitterHash now before.registry).2 with
      | none => simpa [AccountSystem.perform, granted] using invariant.distinct
      | some lease =>
        simp only [AccountSystem.perform, granted, Option.toList_some, List.singleton_append,
          List.map_cons, List.nodup_cons, List.mem_map]
        refine ⟨?_, invariant.distinct⟩
        rintro ⟨older, member, same⟩
        exact AccountOperation.apply_granted fresh granted older member same.symm

theorem AccountSystem.Reachable.holds {jitterHash : AccountConcurrencyKey → Nat → Nat}
    {system : AccountSystem} (reachable : system.Reachable jitterHash) :
    AccountInvariant system := by
  refine reachable.invariant AccountInvariant ?_ fun _ _ _ step => step.invariant
  rintro first ⟨tuning, now, rfl⟩
  refine ⟨fun account state probe found => ?_, fun account state probe found => ?_, by simp [start]⟩ <;>
    simp [start, AccountConcurrencyRegistry.new] at found

def LeavesProbe (lease : AccountProbeLease) (_ : AccountSystem)
    (label : Option AccountOperation) : Prop :=
  ∀ operation finished, label = some operation → operation.finishes = some finished →
    finished.ownerToken ≠ lease.ownerToken

theorem records_kept {jitterHash : AccountConcurrencyKey → Nat → Nat}
    {first later : AccountSystem} {lease : AccountProbeLease} {expiresAt : Instant}
    (reachable : first.Reachable jitterHash)
    (run : Transition.Steps (AccountStep jitterHash) (LeavesProbe lease) first later)
    (recorded : first.registry.Records lease expiresAt) (alive : later.now < expiresAt) :
    ∃ latest, expiresAt ≤ latest ∧ later.registry.Records lease latest := by
  refine (run.invariant (fun system => AccountInvariant system ∧ (system.now < expiresAt →
    ∃ latest, expiresAt ≤ latest ∧ system.registry.Records lease latest)) ?_
    ⟨reachable.holds, fun _ => ⟨expiresAt, Nat.le_refl _, recorded⟩⟩).2 alive
  rintro before label after step leaves ⟨invariant, recorded⟩
  refine ⟨step.invariant invariant, fun alive => ?_⟩
  cases step with
  | reorder accounts same =>
    obtain ⟨latest, later, state, probe, found, present⟩ := recorded alive
    exact ⟨latest, later, state, probe, (same.lookup _).trans found, present⟩
  | operate operation now forward =>
    obtain ⟨latest, later, state, probe, found, present, same, rfl⟩ :=
      recorded (Nat.lt_of_le_of_lt forward alive)
    have sound := (invariant.sound lease.account).mono (Nat.add_le_add_right forward _)
    obtain ⟨next, renewed, reached, held, again, latest⟩ :=
      (operation.apply_effects jitterHash now before.registry lease.account).probe_kept sound found
        present (Nat.lt_of_lt_of_le alive later) fun finished finishes owner =>
          leaves operation finished rfl finishes (owner.symm.trans same.ownerToken)
    exact ⟨renewed.expiresAt, Nat.le_trans later latest, next, renewed, reached, held,
      again.trans same, rfl⟩

namespace AccountConcurrencyRegistry

structure OnlyPruned (before after : AccountConcurrencyRegistry) (account : AccountConcurrencyKey)
    (now : Instant) : Prop where
  others : ∀ key, key ≠ account → after.accounts.lookup key = before.accounts.lookup key
  pruned : ∀ state, before.accounts.lookup account = some state → ∃ next,
    after.accounts.lookup account = some next ∧ next.rejectionCount = state.rejectionCount ∧
      next.saturated = state.saturated ∧
      next.cooldownUntil = state.cooldownUntil.filter (now < ·) ∧
      next.explicitRetryAfterUntil = state.explicitRetryAfterUntil.filter (now < ·)

theorem onlyPruned_setAccount {registry : AccountConcurrencyRegistry}
    {account : AccountConcurrencyKey} {state : AccountState} {now : Instant}
    (found : registry.accounts.lookup account = some state) :
    registry.OnlyPruned (registry.setAccount account (state.pruneAccount now)) account now := by
  refine ⟨fun key different => ?_, fun current present => ?_⟩
  · rw [lookup_setAccount, if_neg different]
  · cases found.symm.trans present
    refine ⟨state.pruneAccount now, ?_, state.pruneAccount_rejections now⟩
    rw [lookup_setAccount, if_pos rfl, found, Option.map_some]

theorem onlyPruned_missing {registry : AccountConcurrencyRegistry}
    {account : AccountConcurrencyKey} (missing : registry.accounts.lookup account = none)
    (now : Instant) : registry.OnlyPruned registry account now :=
  ⟨fun _ _ => rfl, fun _ found => by simp [missing] at found⟩

section Owner

variable {registry : AccountConcurrencyRegistry} {lease : AccountProbeLease} {latest : Instant}

theorem validateProbe_pruned_iff {state : AccountState} {now : Instant}
    (sound : AccountSound lease.account latest (registry.accounts.lookup lease.account))
    (found : registry.accounts.lookup lease.account = some state) :
    (state.pruneAccount now).validateProbe lease = .ok () ↔
      ∃ expiresAt, registry.Records lease expiresAt ∧ now < expiresAt := by
  obtain ⟨filtered, generation⟩ := state.pruneAccount_probe now
  rw [AccountState.validateProbe_ok_iff]
  constructor
  · rintro ⟨current, probe, present, owner, request⟩
    have kept := generation (by simp [present])
    rw [filtered, Option.filter_eq_some_iff] at present
    obtain ⟨recorded, live⟩ := present
    have known := sound state probe found recorded
    exact ⟨probe.expiresAt, ⟨state, probe, found, recorded,
      ⟨known.account, request, known.generation.trans (kept.symm.trans current), owner⟩, rfl⟩,
      by simpa using live⟩
  · rintro ⟨_, ⟨current, probe, present, recorded, same, rfl⟩, live⟩
    cases found.symm.trans present
    have kept : (state.pruneAccount now).probe = some probe := by
      rw [filtered, Option.filter_eq_some_iff]
      exact ⟨recorded, by simpa using live⟩
    have known := sound state probe found recorded
    refine ⟨?_, probe, kept, same.ownerToken, same.requestId⟩
    rw [generation (by simp [kept]), ← known.generation, same.generation]

theorem renewProbe_ok_iff (now : Instant)
    (sound : AccountSound lease.account latest (registry.accounts.lookup lease.account)) :
    (registry.renewProbe lease now).2 = .ok () ↔
      ∃ expiresAt, registry.Records lease expiresAt ∧ now < expiresAt := by
  unfold renewProbe
  split
  next missing =>
    refine iff_of_false (by simp) ?_
    rintro ⟨_, ⟨state, _, found, _⟩, _⟩
    simp [missing] at found
  next state found =>
    rw [← validateProbe_pruned_iff sound found]
    dsimp only
    split <;> simp_all

theorem finishProbe_ok_iff (jitterHash : AccountConcurrencyKey → Nat → Nat)
    (outcome : AccountProbeOutcome) (now : Instant)
    (sound : AccountSound lease.account latest (registry.accounts.lookup lease.account)) :
    (registry.finishProbe jitterHash lease outcome now).2 = .ok () ↔
      ∃ expiresAt, registry.Records lease expiresAt ∧ now < expiresAt := by
  unfold finishProbe
  split
  next missing =>
    refine iff_of_false (by simp) ?_
    rintro ⟨_, ⟨state, _, found, _⟩, _⟩
    simp [missing] at found
  next state found =>
    rw [← validateProbe_pruned_iff sound found]
    dsimp only
    split <;> simp_all

theorem renewProbe_error {now : Instant} (refused : (registry.renewProbe lease now).2 ≠ .ok ()) :
    (∃ error, (registry.renewProbe lease now).2 = .error error) ∧
      registry.OnlyPruned (registry.renewProbe lease now).1 lease.account now := by
  unfold renewProbe at refused ⊢
  split
  next missing => exact ⟨⟨_, rfl⟩, onlyPruned_missing missing now⟩
  next state found =>
    dsimp only
    split
    next => exact ⟨⟨_, rfl⟩, onlyPruned_setAccount found⟩
    next valid => simp [found, valid] at refused

theorem finishProbe_error {jitterHash : AccountConcurrencyKey → Nat → Nat}
    {outcome : AccountProbeOutcome} {now : Instant}
    (refused : (registry.finishProbe jitterHash lease outcome now).2 ≠ .ok ()) :
    (∃ error, (registry.finishProbe jitterHash lease outcome now).2 = .error error) ∧
      registry.OnlyPruned (registry.finishProbe jitterHash lease outcome now).1 lease.account
        now := by
  unfold finishProbe at refused ⊢
  split
  next missing => exact ⟨⟨_, rfl⟩, onlyPruned_missing missing now⟩
  next state found =>
    dsimp only
    split
    next => exact ⟨⟨_, rfl⟩, onlyPruned_setAccount found⟩
    next valid => simp [found, valid] at refused

end Owner

end AccountConcurrencyRegistry

theorem AccountSystem.start_reachable (jitterHash : AccountConcurrencyKey → Nat → Nat)
    (tuning : AccountConcurrencyTuning) (now : Instant) :
    (start tuning now).Reachable jitterHash :=
  ⟨_, ⟨_, _, rfl⟩, .refl⟩

def exampleAccount : AccountConcurrencyKey := ⟨"upstream", "fingerprint"⟩

def waitingAccounts : AccountSystem :=
  (AccountSystem.start
    { probeDelays := normalizeConcurrencyProbeDelays defaultUpstreamConcurrencyProbeDelaysMs
      jitterMax := Duration.fromMillis 100
      waiterBudget := Duration.fromSecs 30
      waiterTtl := Duration.fromSecs 90
      probeTtl := Duration.fromSecs 120
      renewalInterval := Duration.fromSecs 30
      idleRetention := Duration.fromSecs 600 } 0).perform (fun _ _ => 0)
    (.registerWaiter exampleAccount "request" "downstream" "lease" "ticket") 0

def probedAccounts : AccountSystem :=
  waitingAccounts.perform (fun _ _ => 0)
    (.tryProbe ⟨exampleAccount, "request", "downstream", "lease", 0, 0, "ticket"⟩ "owner") 0

theorem probedAccounts_reachable : probedAccounts.Reachable (fun _ _ => 0) := by
  have waiting : waitingAccounts.Reachable (fun _ _ => 0) :=
    (AccountSystem.start_reachable _ _ _).advance (.operate _ _ 0 (Nat.le_refl 0) trivial)
  exact waiting.advance (.operate _ _ 0 (Nat.le_refl 0) fun lease member => (nomatch member))

end ChatGateway
