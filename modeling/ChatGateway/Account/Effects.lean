import ChatGateway.Account.Registry
import Mathlib.Logic.Relation

set_option autoImplicit false

/-!
# What a call does to one account

Every call changes an account through a few effects, and the invariants of an account are proved
over the effects.
-/

namespace ChatGateway

structure SameProbe (first second : AccountProbeLease) : Prop where
  account : first.account = second.account
  requestId : first.requestId = second.requestId
  generation : first.generation = second.generation
  ownerToken : first.ownerToken = second.ownerToken

theorem SameProbe.trans {first second third : AccountProbeLease}
    (former : SameProbe first second) (latter : SameProbe second third) : SameProbe first third :=
  ⟨former.account.trans latter.account, former.requestId.trans latter.requestId,
    former.generation.trans latter.generation, former.ownerToken.trans latter.ownerToken⟩

/-- The effects on an account. `grant` is the lease the call hands out, `finish` the lease it
finishes, `ttl` the time a probe is granted or renewed for. -/
inductive AccountEffect (now : Instant) (ttl : Duration) (account : AccountConcurrencyKey)
    (grant finish : Option AccountProbeLease) : Option AccountState → Option AccountState → Prop
  | created : AccountEffect now ttl account grant finish none (some (AccountState.new now))
  | removed (state : AccountState) (idle : state.probe = none) :
      AccountEffect now ttl account grant finish (some state) none
  | pruned (state : AccountState) :
      AccountEffect now ttl account grant finish (some state) (some (state.pruneAccount now))
  | kept (before after : AccountState) (probe : after.probe = before.probe)
      (generation : before.probe.isSome → after.generation = before.generation) :
      AccountEffect now ttl account grant finish (some before) (some after)
  | granted (before after : AccountState) (lease : AccountProbeLease)
      (allowed : grant = some lease) (idle : before.probe = none)
      (probe : after.probe = some ⟨lease, now + ttl⟩) (own : lease.account = account)
      (generation : lease.generation = after.generation) :
      AccountEffect now ttl account grant finish (some before) (some after)
  | renewed (before after : AccountState) (probe : ProbeRecord) (expiresAtMs : Nat)
      (found : before.probe = some probe)
      (extended : after.probe =
        some ⟨{ probe.lease with expiresAtMs := expiresAtMs }, now + ttl⟩)
      (generation : after.generation = before.generation) :
      AccountEffect now ttl account grant finish (some before) (some after)
  | finished (before after : AccountState) (lease : AccountProbeLease) (probe : ProbeRecord)
      (allowed : finish = some lease) (found : before.probe = some probe)
      (owner : probe.lease.ownerToken = lease.ownerToken) (gone : after.probe = none) :
      AccountEffect now ttl account grant finish (some before) (some after)

abbrev AccountEffects (now : Instant) (ttl : Duration) (account : AccountConcurrencyKey)
    (grant finish : Option AccountProbeLease) : Option AccountState → Option AccountState → Prop :=
  Relation.ReflTransGen (AccountEffect now ttl account grant finish)

namespace AccountState

theorem pruneAccount_probe (state : AccountState) (now : Instant) :
    (state.pruneAccount now).probe = state.probe.filter (now < ·.expiresAt) ∧
      ((state.pruneAccount now).probe.isSome →
        (state.pruneAccount now).generation = state.generation) := by
  unfold pruneAccount pruneProbe
  cases found : state.probe with
  | none => simp
  | some probe =>
    rw [Option.filter_some]
    by_cases live : now < probe.expiresAt
    · simp [live, Nat.not_le.mpr live]
    · simp [live, Nat.not_lt.mp live]

theorem pruneAccount_rejections (state : AccountState) (now : Instant) :
    (state.pruneAccount now).rejectionCount = state.rejectionCount ∧
      (state.pruneAccount now).saturated = state.saturated ∧
      (state.pruneAccount now).cooldownUntil = state.cooldownUntil.filter (now < ·) ∧
      (state.pruneAccount now).explicitRetryAfterUntil =
        state.explicitRetryAfterUntil.filter (now < ·) := by
  unfold pruneAccount pruneProbe
  dsimp only
  split <;> simp

theorem validateProbe_ok_iff (state : AccountState) (lease : AccountProbeLease) :
    state.validateProbe lease = .ok () ↔
      state.generation = lease.generation ∧ ∃ probe, state.probe = some probe ∧
        probe.lease.ownerToken = lease.ownerToken ∧ probe.lease.requestId = lease.requestId := by
  unfold validateProbe
  by_cases current : state.generation = lease.generation
  · cases found : state.probe with
    | none => simp [current]
    | some probe =>
      by_cases owner : probe.lease.ownerToken = lease.ownerToken
      · by_cases request : probe.lease.requestId = lease.requestId <;>
          simp [current, owner, request]
      · simp [current, owner]
  · simp [current]

end AccountState

inductive AccountOperation where
  | reject (key : AccountConcurrencyKey) (retryAfter : Option Duration)
  | registerWaiter (key : AccountConcurrencyKey)
      (requestId downstreamId downstreamLeaseId registrationToken : String)
  | registerWaiterIfSaturated (key : AccountConcurrencyKey)
      (requestId downstreamId downstreamLeaseId registrationToken : String)
  | renewWaiter (ticket : AccountWaitTicket)
  | cancelWaiter (ticket : AccountWaitTicket)
  | tryProbe (ticket : AccountWaitTicket) (ownerToken : String)
  | renewProbe (lease : AccountProbeLease)
  | finishProbe (lease : AccountProbeLease) (outcome : AccountProbeOutcome)
  | snapshot (key : AccountConcurrencyKey)
  | pruneIdle
  | updateRuntimeTuning (concurrencyProbeDelaysMs : List Nat) (recoveryMaxWaitMs : Nat)

def grantedLease : ProbeDecision → Option AccountProbeLease
  | .granted lease => some lease
  | .wait _ => none

namespace AccountOperation

section Apply

variable (jitterHash : AccountConcurrencyKey → Nat → Nat)

def apply (operation : AccountOperation) (now : Instant) (registry : AccountConcurrencyRegistry) :
    AccountConcurrencyRegistry × Option AccountProbeLease :=
  match operation with
  | .reject key retryAfter => (registry.reject jitterHash key retryAfter now, none)
  | .registerWaiter key requestId downstreamId downstreamLeaseId token =>
    ((registry.registerWaiter key requestId downstreamId downstreamLeaseId token now).1, none)
  | .registerWaiterIfSaturated key requestId downstreamId downstreamLeaseId token =>
    ((registry.registerWaiterIfSaturated key requestId downstreamId downstreamLeaseId token now).1,
      none)
  | .renewWaiter ticket => ((registry.renewWaiter ticket now).1, none)
  | .cancelWaiter ticket => (registry.cancelWaiter ticket now, none)
  | .tryProbe ticket ownerToken =>
    let decided := registry.tryProbe ticket ownerToken now
    (decided.1, grantedLease decided.2)
  | .renewProbe lease => ((registry.renewProbe lease now).1, none)
  | .finishProbe lease outcome => ((registry.finishProbe jitterHash lease outcome now).1, none)
  | .snapshot key => ((registry.snapshot key now).1, none)
  | .pruneIdle => ((registry.pruneIdle now).1, none)
  | .updateRuntimeTuning delays wait => (registry.updateRuntimeTuning delays wait now, none)

end Apply

def finishes : AccountOperation → Option AccountProbeLease
  | .finishProbe lease _ => some lease
  | _ => none

end AccountOperation

namespace AccountConcurrencyRegistry

variable (registry : AccountConcurrencyRegistry) (now : Instant) (ttl : Duration)
  (grant finish : Option AccountProbeLease)

theorem lookup_setAccount (key other : AccountConcurrencyKey) (state : AccountState) :
    (registry.setAccount key state).accounts.lookup other =
      if other = key then (registry.accounts.lookup other).map fun _ => state
      else registry.accounts.lookup other :=
  Table.lookup_modify _ _ _ _

-- Writing one account leaves the effects of the write on it and none on the others.
theorem effects_setAccount {key : AccountConcurrencyKey} {before : AccountState}
    (found : registry.accounts.lookup key = some before) (after : AccountState)
    (other : AccountConcurrencyKey)
    (effects : other = key → AccountEffects now ttl key grant finish (some before) (some after)) :
    AccountEffects now ttl other grant finish (registry.accounts.lookup other)
      ((registry.setAccount key after).accounts.lookup other) := by
  rw [lookup_setAccount]
  split
  next same =>
    subst same
    rw [found]
    exact effects rfl
  next => exact .refl

theorem effects_withAccountOrNew (key other : AccountConcurrencyKey)
    (update : AccountState → AccountState)
    (effects : other = key → ∀ state,
      AccountEffects now ttl key grant finish (some state) (some (update state))) :
    AccountEffects now ttl other grant finish (registry.accounts.lookup other)
      ((registry.withAccountOrNew key now update).accounts.lookup other) := by
  rw [withAccountOrNew, Table.lookup_insert_eq]
  split
  next same =>
    subst same
    cases found : registry.accounts.lookup other with
    | none => exact Relation.ReflTransGen.head .created (effects rfl _)
    | some state => exact effects rfl state
  next => exact .refl

theorem pruneAccount_effects (account : AccountConcurrencyKey) (state : AccountState) :
    AccountEffects now ttl account grant finish (some state) (some (state.pruneAccount now)) :=
  .single (.pruned state)

theorem reject_effects (jitterHash : AccountConcurrencyKey → Nat → Nat)
    (key other : AccountConcurrencyKey) (retryAfter : Option Duration) :
    AccountEffects now ttl other grant finish (registry.accounts.lookup other)
      ((registry.reject jitterHash key retryAfter now).accounts.lookup other) := by
  refine registry.effects_withAccountOrNew now ttl grant finish key other _ fun _ state => ?_
  refine (pruneAccount_effects now ttl grant finish key state).tail (.kept _ _ rfl fun live => ?_)
  -- A rejection advances the generation only when no probe is live.
  have present : (state.pruneAccount now).probe.isNone = false := by
    simpa [Option.isNone_eq_false_iff] using live
  simp [applyRejection, present]

theorem registerWaiter_effects (key other : AccountConcurrencyKey)
    (requestId downstreamId downstreamLeaseId token : String) :
    AccountEffects now ttl other grant finish (registry.accounts.lookup other)
      ((registry.registerWaiter key requestId downstreamId downstreamLeaseId token
        now).1.accounts.lookup other) :=
  registry.effects_withAccountOrNew now ttl grant finish key other _ fun _ state =>
    (pruneAccount_effects now ttl grant finish key state).tail (.kept _ _ rfl fun _ => rfl)

theorem registerWaiterIfSaturated_effects (key other : AccountConcurrencyKey)
    (requestId downstreamId downstreamLeaseId token : String) :
    AccountEffects now ttl other grant finish (registry.accounts.lookup other)
      ((registry.registerWaiterIfSaturated key requestId downstreamId downstreamLeaseId token
        now).1.accounts.lookup other) := by
  unfold registerWaiterIfSaturated
  split
  next => exact .refl
  next state found =>
    have pruned := pruneAccount_effects now ttl grant finish key state
    dsimp only
    split
    · exact registry.effects_setAccount now ttl grant finish found _ other fun _ => pruned
    · exact registry.effects_setAccount now ttl grant finish found _ other fun _ =>
        pruned.tail (.kept _ _ rfl fun _ => rfl)

theorem cancelWaiter_effects (ticket : AccountWaitTicket) (other : AccountConcurrencyKey) :
    AccountEffects now ttl other grant finish (registry.accounts.lookup other)
      ((registry.cancelWaiter ticket now).accounts.lookup other) := by
  unfold cancelWaiter
  split
  next => exact .refl
  next state found =>
    exact registry.effects_setAccount now ttl grant finish found _ other fun _ =>
      .single (.kept _ _ rfl fun _ => rfl)

theorem renewWaiter_effects (ticket : AccountWaitTicket) (other : AccountConcurrencyKey) :
    AccountEffects now ttl other grant finish (registry.accounts.lookup other)
      ((registry.renewWaiter ticket now).1.accounts.lookup other) := by
  unfold renewWaiter
  split
  next => exact .refl
  next state found =>
    have pruned := pruneAccount_effects now ttl grant finish ticket.account state
    have written := registry.effects_setAccount now ttl grant finish found (state.pruneAccount now)
      other fun _ => pruned
    dsimp only
    split
    · exact written
    · split
      · exact written
      · split
        · exact written
        · exact registry.effects_setAccount now ttl grant finish found _ other fun _ =>
            pruned.tail (.kept _ _ rfl fun _ => rfl)

theorem tryProbe_effects (ticket : AccountWaitTicket) (ownerToken : String)
    (other : AccountConcurrencyKey) :
    AccountEffects now registry.tuning.probeTtl other
      (grantedLease (registry.tryProbe ticket ownerToken now).2) finish
      (registry.accounts.lookup other)
      ((registry.tryProbe ticket ownerToken now).1.accounts.lookup other) := by
  unfold tryProbe
  split
  next => exact .refl
  next state found =>
    have pruned (grant : Option AccountProbeLease) :=
      pruneAccount_effects now registry.tuning.probeTtl grant finish ticket.account state
    have written (grant : Option AccountProbeLease) :=
      registry.effects_setAccount now registry.tuning.probeTtl grant finish found
        (state.pruneAccount now) other fun _ => pruned grant
    dsimp only
    split
    · exact written _
    · split
      · exact written _
      · split
        · exact written _
        · split
          next => exact written _
          next idle =>
            split
            · exact written _
            · exact registry.effects_setAccount now registry.tuning.probeTtl _ finish found _ other
                fun _ => (pruned _).tail (.granted _ _ _ rfl idle rfl rfl rfl)

theorem renewProbe_effects (lease : AccountProbeLease) (other : AccountConcurrencyKey) :
    AccountEffects now registry.tuning.probeTtl other grant finish (registry.accounts.lookup other)
      ((registry.renewProbe lease now).1.accounts.lookup other) := by
  unfold renewProbe
  split
  next => exact .refl
  next state found =>
    have pruned :=
      pruneAccount_effects now registry.tuning.probeTtl grant finish lease.account state
    dsimp only
    split
    next => exact registry.effects_setAccount now _ grant finish found _ other fun _ => pruned
    next valid =>
      obtain ⟨-, probe, present, -⟩ := (AccountState.validateProbe_ok_iff _ lease).mp valid
      refine registry.effects_setAccount now _ grant finish found _ other fun _ =>
        pruned.tail (.renewed _ _ probe
          (registry.instantMs (now + registry.tuning.probeTtl)) present ?_ rfl)
      simp [present]

theorem settle_probe (jitterHash : AccountConcurrencyKey → Nat → Nat)
    (account : AccountConcurrencyKey) (outcome : AccountProbeOutcome) (state : AccountState) :
    (registry.settle jitterHash account outcome now state).probe = none := by
  cases outcome <;> rfl

theorem finishProbe_effects (jitterHash : AccountConcurrencyKey → Nat → Nat)
    (lease : AccountProbeLease) (outcome : AccountProbeOutcome) (other : AccountConcurrencyKey) :
    AccountEffects now ttl other grant (some lease) (registry.accounts.lookup other)
      ((registry.finishProbe jitterHash lease outcome now).1.accounts.lookup other) := by
  unfold finishProbe
  split
  next => exact .refl
  next state found =>
    have pruned := pruneAccount_effects now ttl grant (some lease) lease.account state
    dsimp only
    split
    next => exact registry.effects_setAccount now ttl grant _ found _ other fun _ => pruned
    next valid =>
      obtain ⟨-, probe, present, owner, -⟩ := (AccountState.validateProbe_ok_iff _ lease).mp valid
      exact registry.effects_setAccount now ttl grant _ found _ other fun _ =>
        pruned.tail (.finished _ _ lease probe rfl present owner
          (registry.settle_probe now jitterHash lease.account outcome _))

theorem snapshot_effects (key other : AccountConcurrencyKey) :
    AccountEffects now ttl other grant finish (registry.accounts.lookup other)
      ((registry.snapshot key now).1.accounts.lookup other) := by
  unfold snapshot
  split
  next => exact .refl
  next state found =>
    exact registry.effects_setAccount now ttl grant finish found _ other fun _ =>
      pruneAccount_effects now ttl grant finish key state

theorem pruneIdle_effects (other : AccountConcurrencyKey) :
    AccountEffects now ttl other grant finish (registry.accounts.lookup other)
      ((registry.pruneIdle now).1.accounts.lookup other) := by
  unfold pruneIdle
  dsimp only
  rw [Table.lookup_retain, Table.lookup_mapEntries]
  cases registry.accounts.lookup other with
  | none => exact .refl
  | some state =>
    have pruned := pruneAccount_effects now ttl grant finish other state
    rw [Option.map_some, Option.filter_some]
    split
    next => exact pruned
    next dropped => exact pruned.tail (.removed _ (by simp_all))

theorem updateRuntimeTuning_effects (delays : List Nat) (wait : Nat)
    (other : AccountConcurrencyKey) :
    AccountEffects now ttl other grant finish (registry.accounts.lookup other)
      ((registry.updateRuntimeTuning delays wait now).accounts.lookup other) := by
  unfold updateRuntimeTuning
  dsimp only
  rw [Table.lookup_mapEntries]
  cases registry.accounts.lookup other with
  | none => exact .refl
  | some state => exact .single (.kept _ _ rfl fun _ => rfl)

end AccountConcurrencyRegistry

namespace AccountOperation

variable (jitterHash : AccountConcurrencyKey → Nat → Nat) (operation : AccountOperation)
  (now : Instant) (registry : AccountConcurrencyRegistry)

theorem apply_effects (account : AccountConcurrencyKey) :
    AccountEffects now registry.tuning.probeTtl account
      (operation.apply jitterHash now registry).2 operation.finishes
      (registry.accounts.lookup account)
      ((operation.apply jitterHash now registry).1.accounts.lookup account) := by
  cases operation with
  | reject key retryAfter => exact registry.reject_effects now _ _ _ jitterHash key account retryAfter
  | registerWaiter key requestId downstreamId downstreamLeaseId token =>
    exact registry.registerWaiter_effects now _ _ _ key account requestId downstreamId
      downstreamLeaseId token
  | registerWaiterIfSaturated key requestId downstreamId downstreamLeaseId token =>
    exact registry.registerWaiterIfSaturated_effects now _ _ _ key account requestId downstreamId
      downstreamLeaseId token
  | renewWaiter ticket => exact registry.renewWaiter_effects now _ _ _ ticket account
  | cancelWaiter ticket => exact registry.cancelWaiter_effects now _ _ _ ticket account
  | tryProbe ticket ownerToken => exact registry.tryProbe_effects now _ ticket ownerToken account
  | renewProbe lease => exact registry.renewProbe_effects now _ _ lease account
  | finishProbe lease outcome =>
    exact registry.finishProbe_effects now _ _ jitterHash lease outcome account
  | snapshot key => exact registry.snapshot_effects now _ _ _ key account
  | pruneIdle => exact registry.pruneIdle_effects now _ _ _ account
  | updateRuntimeTuning delays wait =>
    exact registry.updateRuntimeTuning_effects now _ _ _ delays wait account

theorem apply_probeTtl :
    (operation.apply jitterHash now registry).1.tuning.probeTtl = registry.tuning.probeTtl := by
  cases operation with
  | tryProbe ticket ownerToken =>
    simp only [apply, AccountConcurrencyRegistry.tryProbe]
    repeat' split
    all_goals rfl
  | renewWaiter ticket =>
    simp only [apply, AccountConcurrencyRegistry.renewWaiter]
    repeat' split
    all_goals rfl
  | renewProbe lease =>
    simp only [apply, AccountConcurrencyRegistry.renewProbe]
    repeat' split
    all_goals rfl
  | finishProbe lease outcome =>
    simp only [apply, AccountConcurrencyRegistry.finishProbe]
    repeat' split
    all_goals rfl
  | registerWaiterIfSaturated key requestId downstreamId downstreamLeaseId token =>
    simp only [apply, AccountConcurrencyRegistry.registerWaiterIfSaturated]
    repeat' split
    all_goals rfl
  | cancelWaiter ticket =>
    simp only [apply, AccountConcurrencyRegistry.cancelWaiter]
    split <;> rfl
  | snapshot key =>
    simp only [apply, AccountConcurrencyRegistry.snapshot]
    split <;> rfl
  | _ => rfl

end AccountOperation

/-- A recorded probe belongs to its account, carries the generation of the account, and does not
expire later than a probe granted now would. -/
structure ProbeSound (account : AccountConcurrencyKey) (latest : Instant) (state : AccountState)
    (probe : ProbeRecord) : Prop where
  account : probe.lease.account = account
  generation : probe.lease.generation = state.generation
  expiry : probe.expiresAt ≤ latest

def AccountSound (account : AccountConcurrencyKey) (latest : Instant)
    (entry : Option AccountState) : Prop :=
  ∀ state probe, entry = some state → state.probe = some probe →
    ProbeSound account latest state probe

section Effects

variable {now : Instant} {ttl : Duration} {account : AccountConcurrencyKey}
  {grant finish : Option AccountProbeLease} {before after : Option AccountState}

theorem AccountEffect.sound (effect : AccountEffect now ttl account grant finish before after)
    (sound : AccountSound account (now + ttl) before) : AccountSound account (now + ttl) after := by
  intro state probe reached present
  cases effect with
  | created =>
    cases reached
    cases present
  | removed => cases reached
  | pruned before =>
    cases reached
    obtain ⟨filtered, generation⟩ := before.pruneAccount_probe now
    have kept := generation (by simp [present])
    rw [filtered, Option.filter_eq_some_iff] at present
    have earlier := sound before probe rfl present.1
    exact ⟨earlier.account, by rw [kept]; exact earlier.generation, earlier.expiry⟩
  | kept before after same generation =>
    cases reached
    rw [same] at present
    have earlier := sound before probe rfl present
    exact ⟨earlier.account, by rw [generation (by simp [present])]; exact earlier.generation,
      earlier.expiry⟩
  | granted before after lease allowed idle granted own generation =>
    cases reached
    rw [granted] at present
    cases present
    exact ⟨own, generation, Nat.le_refl _⟩
  | renewed before after recorded expiresAtMs found extended generation =>
    cases reached
    rw [extended] at present
    cases present
    have earlier := sound before recorded rfl found
    exact ⟨earlier.account, by rw [generation]; exact earlier.generation, Nat.le_refl _⟩
  | finished before after lease probe allowed found owner gone =>
    cases reached
    rw [gone] at present
    cases present

theorem AccountEffects.sound (effects : AccountEffects now ttl account grant finish before after)
    (sound : AccountSound account (now + ttl) before) : AccountSound account (now + ttl) after := by
  induction effects with
  | refl => exact sound
  | tail _ effect ih => exact effect.sound ih

theorem AccountEffects.origin (effects : AccountEffects now ttl account grant finish before after)
    {state : AccountState} {probe : ProbeRecord} (reached : after = some state)
    (present : state.probe = some probe) :
    (∃ earlier recorded, before = some earlier ∧ earlier.probe = some recorded ∧
      SameProbe recorded.lease probe.lease) ∨
      ∃ lease, grant = some lease ∧ SameProbe lease probe.lease := by
  induction effects generalizing state probe with
  | refl => exact .inl ⟨state, probe, reached, present, rfl, rfl, rfl, rfl⟩
  | tail _ effect ih =>
    cases effect with
    | created =>
      cases reached
      cases present
    | removed => cases reached
    | pruned before =>
      cases reached
      rw [(before.pruneAccount_probe now).1, Option.filter_eq_some_iff] at present
      exact ih rfl present.1
    | kept before after same =>
      cases reached
      exact ih rfl (same ▸ present)
    | granted before after lease allowed idle granted =>
      cases reached
      rw [granted] at present
      cases present
      exact .inr ⟨lease, allowed, rfl, rfl, rfl, rfl⟩
    | renewed before after recorded expiresAtMs found extended =>
      cases reached
      rw [extended] at present
      cases present
      rcases ih rfl found with ⟨earlier, first, start, held, same⟩ | ⟨lease, allowed, same⟩
      · exact .inl ⟨earlier, first, start, held, same.account, same.requestId, same.generation,
          same.ownerToken⟩
      · exact .inr ⟨lease, allowed, same.account, same.requestId, same.generation,
          same.ownerToken⟩
    | finished before after lease recorded allowed found owner gone =>
      cases reached
      rw [gone] at present
      cases present

theorem AccountEffect.probe_kept (effect : AccountEffect now ttl account grant finish before after)
    (sound : AccountSound account (now + ttl) before) {state : AccountState} {probe : ProbeRecord}
    (found : before = some state) (present : state.probe = some probe)
    (live : now < probe.expiresAt)
    (unfinished : ∀ lease, finish = some lease → probe.lease.ownerToken ≠ lease.ownerToken) :
    ∃ next recorded, after = some next ∧ next.probe = some recorded ∧
      SameProbe recorded.lease probe.lease ∧ probe.expiresAt ≤ recorded.expiresAt := by
  cases effect with
  | created => cases found
  | removed before idle =>
    cases found
    simp [idle] at present
  | pruned before =>
    cases found
    refine ⟨_, probe, rfl, ?_, ⟨rfl, rfl, rfl, rfl⟩, Nat.le_refl _⟩
    rw [(state.pruneAccount_probe now).1, Option.filter_eq_some_iff]
    exact ⟨present, by simpa using live⟩
  | kept before after same =>
    cases found
    exact ⟨after, probe, rfl, same.trans present, ⟨rfl, rfl, rfl, rfl⟩, Nat.le_refl _⟩
  | granted before after lease allowed idle =>
    cases found
    simp [idle] at present
  | renewed before after recorded expiresAtMs held extended =>
    cases found
    cases held.symm.trans present
    exact ⟨after, _, rfl, extended, ⟨rfl, rfl, rfl, rfl⟩, (sound state probe rfl held).expiry⟩
  | finished before after lease recorded allowed held owner =>
    cases found
    cases held.symm.trans present
    exact absurd owner (unfinished lease allowed)

theorem AccountEffects.probe_kept
    (effects : AccountEffects now ttl account grant finish before after)
    (sound : AccountSound account (now + ttl) before) {state : AccountState} {probe : ProbeRecord}
    (found : before = some state) (present : state.probe = some probe)
    (live : now < probe.expiresAt)
    (unfinished : ∀ lease, finish = some lease → probe.lease.ownerToken ≠ lease.ownerToken) :
    ∃ next recorded, after = some next ∧ next.probe = some recorded ∧
      SameProbe recorded.lease probe.lease ∧ probe.expiresAt ≤ recorded.expiresAt := by
  induction effects with
  | refl => exact ⟨state, probe, found, present, ⟨rfl, rfl, rfl, rfl⟩, Nat.le_refl _⟩
  | tail past effect ih =>
    obtain ⟨current, recorded, reached, held, same, later⟩ := ih
    obtain ⟨next, renewed, reached, held, again, latest⟩ :=
      effect.probe_kept (AccountEffects.sound past sound) reached held
        (Nat.lt_of_lt_of_le live later) fun lease finishing owner =>
          unfinished lease finishing (same.ownerToken.symm.trans owner)
    exact ⟨next, renewed, reached, held, again.trans same, Nat.le_trans later latest⟩

end Effects

end ChatGateway
