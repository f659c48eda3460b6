import ChatGateway.Local.DownstreamLeases
import ChatGateway.Shared.Transition

set_option autoImplicit false

/-!
# Runs of the local concurrency gate

Requests take, renew, mark and give back leases in any order, at any reading of the clock. A
lease is given back in three steps, so that other operations may come between them: the release
cell is acquired, the lease is taken out of the table, and the release is completed.
-/

namespace ChatGateway

inductive ReleaseStage where
  | active
  | releasing
  | removed
  | released
deriving DecidableEq

namespace ReleaseStage

/-- `LeaseReleaseGuard::acquire` hands out a guard only for an active cell. -/
def acquire : ReleaseStage → ReleaseStage
  | active => releasing
  | stage => stage

def IsOver (stage : ReleaseStage) : Prop :=
  stage = removed ∨ stage = released

end ReleaseStage

structure LocalLeases where
  runtime : DownstreamRuntime := ∅
  cells : Nat → ReleaseStage := fun _ => .active
  /-- Every lease that was handed out, in the order of their cells. -/
  issued : List DownstreamConcurrencyLease := []

inductive LocalLeaseOp where
  | reserve (downstream : DownstreamConfig) (model : Text) (caseInsensitive : Bool)
      (clock : ReserveClock) (ttlSeconds : Nat) (leaseId : String)
  | renew (lease : DownstreamConcurrencyLease) (now ttlSeconds : Nat)
  | acquireRelease (lease : DownstreamConcurrencyLease)
  | removeLease (lease : DownstreamConcurrencyLease)
  | completeRelease (lease : DownstreamConcurrencyLease)
  | dropGuard (lease : DownstreamConcurrencyLease)
  | markWaiting (lease : DownstreamConcurrencyLease) (now : Nat)
  | unmarkWaiting (lease : DownstreamConcurrencyLease)
  | snapshot (clock : DownstreamLeaseKey → Nat) (downstreamId : String)
  | allSnapshots (now : Nat) (downstreamIds : List String)
  | clear (downstreamId : String)

/-- `try_reserve_downstream_concurrency`, with the cell and the lease id it would make. -/
def tryReserveDownstreamConcurrency (runtime : DownstreamRuntime) (clock : ReserveClock)
    (ttlSeconds : Nat) (leaseId : String) (releaseCell : Nat) (downstream : DownstreamConfig)
    (model : Text) (caseInsensitive : Bool) :
    Except DownstreamAdmissionRejection DownstreamConcurrencyLease × DownstreamRuntime :=
  if !downstream.rateLimitEnabled then (.ok ⟨downstream.id, "", none, releaseCell⟩, runtime)
  else
    let group := downstream.concurrencyGroupForModel model caseInsensitive
    match runtime.tryReserve clock ttlSeconds leaseId downstream group with
    | (some rejection, runtime) => (.error rejection, runtime)
    | (none, runtime) =>
      (.ok ⟨downstream.id, leaseGroupName group, some leaseId, releaseCell⟩, runtime)

def onLease (lease : DownstreamConcurrencyLease) (runtime : DownstreamRuntime)
    (change : DownstreamLeaseKey → String → DownstreamRuntime) : DownstreamRuntime :=
  match lease.leaseId with
  | none => runtime
  | some leaseId => change lease.key leaseId

namespace LocalLeases

def reserve (state : LocalLeases) (downstream : DownstreamConfig) (model : Text)
    (caseInsensitive : Bool) (clock : ReserveClock) (ttlSeconds : Nat) (leaseId : String) :
    Except DownstreamAdmissionRejection DownstreamConcurrencyLease × LocalLeases :=
  match tryReserveDownstreamConcurrency state.runtime clock ttlSeconds leaseId state.issued.length
      downstream model caseInsensitive with
  | (.error rejection, runtime) => (.error rejection, { state with runtime })
  | (.ok lease, runtime) => (.ok lease, { state with runtime, issued := state.issued ++ [lease] })

def setCell (state : LocalLeases) (cell : Nat) (stage : ReleaseStage) : LocalLeases :=
  { state with cells := Function.update state.cells cell stage }

theorem setCell_cells (state : LocalLeases) (cell other : Nat) (stage : ReleaseStage) :
    (state.setCell cell stage).cells other = if other = cell then stage else state.cells other :=
  Function.update_apply state.cells cell stage other

def apply (state : LocalLeases) : LocalLeaseOp → LocalLeases
  | .reserve downstream model caseInsensitive clock ttlSeconds leaseId =>
    (state.reserve downstream model caseInsensitive clock ttlSeconds leaseId).2
  | .renew lease now ttlSeconds =>
    { state with runtime := onLease lease state.runtime (state.runtime.renew now ttlSeconds) }
  | .acquireRelease lease =>
    state.setCell lease.releaseCell (state.cells lease.releaseCell).acquire
  | .removeLease lease =>
    { state.setCell lease.releaseCell .removed with
      runtime := onLease lease state.runtime fun key id => (state.runtime.release key id).2 }
  | .completeRelease lease => state.setCell lease.releaseCell .released
  | .dropGuard lease => state.setCell lease.releaseCell .active
  | .markWaiting lease now =>
    { state with
      runtime := onLease lease state.runtime fun key id => (state.runtime.markWaiting now key id).2 }
  | .unmarkWaiting lease =>
    { state with runtime := onLease lease state.runtime state.runtime.unmarkWaiting }
  | .snapshot clock downstreamId =>
    { state with runtime := (state.runtime.snapshot clock downstreamId).2 }
  | .allSnapshots now downstreamIds =>
    { state with runtime := (state.runtime.allSnapshots now downstreamIds).2 }
  | .clear downstreamId => { state with runtime := state.runtime.clear downstreamId }

/-- A lease id is new when it is made, every other operation is on a lease that was handed out,
and a release goes on only while its guard is held. -/
def Enabled (configs : String → DownstreamConfig) (state : LocalLeases) : LocalLeaseOp → Prop
  | .reserve downstream _ _ _ _ leaseId =>
    configs downstream.id = downstream ∧ ∀ lease ∈ state.issued, lease.leaseId ≠ some leaseId
  | .renew lease _ _ | .acquireRelease lease | .markWaiting lease _ | .unmarkWaiting lease =>
    lease ∈ state.issued
  | .removeLease lease | .dropGuard lease =>
    lease ∈ state.issued ∧ state.cells lease.releaseCell = .releasing
  | .completeRelease lease => lease ∈ state.issued ∧ state.cells lease.releaseCell = .removed
  | .snapshot _ _ | .allSnapshots _ _ | .clear _ => True

def Step (configs : String → DownstreamConfig) (before : LocalLeases) (op : LocalLeaseOp)
    (after : LocalLeases) : Prop :=
  before.Enabled configs op ∧ after = before.apply op

abbrev Later (configs : String → DownstreamConfig) : LocalLeases → LocalLeases → Prop :=
  Transition.Steps (Step configs) fun _ _ => True

def Reachable (configs : String → DownstreamConfig) (state : LocalLeases) : Prop :=
  Later configs {} state

end LocalLeases

namespace DownstreamLeaseState

structure Shrinks (before after : DownstreamLeaseState) : Prop where
  admitted : ∀ leaseId ∈ after.admitted, leaseId ∈ before.admitted
  held : after.held ≤ before.held
  consistent : before.Consistent → after.Consistent

variable {state : DownstreamLeaseState}

theorem Shrinks.refl : Shrinks state state :=
  ⟨fun _ kept => kept, le_rfl, fun consistent => consistent⟩

theorem Shrinks.empty : Shrinks state {} where
  admitted leaseId kept := by cases kept
  held := Nat.zero_le _
  consistent _ waitingId waits := by cases waits

theorem Shrinks.trans {first second third : DownstreamLeaseState} (left : Shrinks first second)
    (right : Shrinks second third) : Shrinks first third where
  admitted leaseId kept := left.admitted leaseId (right.admitted leaseId kept)
  held := right.held.trans left.held
  consistent known := right.consistent (left.consistent known)

theorem shrinks_pruneExpired (now : Nat) : Shrinks state (state.pruneExpired now) where
  admitted leaseId kept := by
    obtain ⟨expiresAt, found, -⟩ := pruneExpired_admitted.1 kept
    exact AList.lookup_isSome.1 (Option.isSome_of_mem found)
  held := pruneExpired_held_le now
  consistent _ := pruneExpired_consistent now

theorem shrinks_remove (leaseId : String) : Shrinks state (state.remove leaseId) where
  admitted _ kept := (remove_admitted.1 kept).2
  held := remove_held_le
  consistent := remove_consistent

theorem shrinks_admit_known {leaseId : String} (known : leaseId ∈ state.admitted) (expiresAt : Nat) :
    Shrinks state (state.admitOne leaseId expiresAt) where
  admitted other kept := by
    rcases admit_admitted.1 kept with rfl | kept
    next => exact known
    next => exact kept
  held := by rw [admit_held, if_pos known]
  consistent consistent := admit_consistent consistent expiresAt

theorem shrinks_waiting {waiting : Finset String}
    (consistent : state.Consistent → ∀ leaseId ∈ waiting, leaseId ∈ state.admitted) :
    Shrinks state { state with waiting } :=
  ⟨fun _ kept => kept, le_rfl, consistent⟩

end DownstreamLeaseState

namespace DownstreamRuntime

structure Shrinks (before after : DownstreamRuntime) : Prop where
  buckets : ∀ key, (before.bucket key).Shrinks (after.bucket key)
  total : ∀ downstreamId,
    downstreamTotalAdmitted after downstreamId ≤ downstreamTotalAdmitted before downstreamId

variable {runtime : DownstreamRuntime} {key : DownstreamLeaseKey}

theorem Shrinks.refl : Shrinks runtime runtime :=
  ⟨fun _ => .refl, fun _ => le_rfl⟩

theorem Shrinks.insert {state : DownstreamLeaseState} (shrinks : (runtime.bucket key).Shrinks state) :
    Shrinks runtime (runtime.insert key state) where
  buckets other := by
    rw [bucket_insert]
    split
    next same => exact same ▸ shrinks
    next => exact .refl
  total downstreamId := total_of_insert_le downstreamId shrinks.held

theorem Shrinks.mapEntries {f : DownstreamLeaseKey → DownstreamLeaseState → DownstreamLeaseState}
    (shrinks : ∀ key (state : DownstreamLeaseState), state.Shrinks (f key state))
    (nothing : ∀ key, f key {} = {}) : Shrinks runtime (runtime.mapEntries f) where
  buckets other := by
    rw [bucket_mapEntries _ _ (nothing other)]
    exact shrinks other _
  total downstreamId := by
    rw [downstreamTotalAdmitted_eq_total, downstreamTotalAdmitted_eq_total]
    refine Table.total_mapEntries_le _ _ _ fun other state => ?_
    rw [heldFor, heldFor]
    split
    next => exact (shrinks other state).held
    next => exact le_rfl

theorem shrinks_pruneGroup (now : Nat) (key : DownstreamLeaseKey)
    (group : Option ModelConcurrencyGroup) :
    Shrinks runtime (runtime.pruneGroup now key group) := by
  rw [pruneGroup]
  split
  next => exact .insert (DownstreamLeaseState.shrinks_pruneExpired now)
  next => exact .refl

theorem shrinks_release (leaseId : String) : Shrinks runtime (runtime.release key leaseId).2 := by
  rw [release]
  cases found : runtime.lookup key with
  | none => exact .refl
  | some state =>
    have own := runtime.bucket_of_lookup key found
    dsimp only
    split
    next =>
      refine ⟨fun other => ?_, fun downstreamId => total_of_erase_le downstreamId⟩
      rw [bucket_erase]
      split
      next => exact .empty
      next => exact .refl
    next => exact .insert (own ▸ DownstreamLeaseState.shrinks_remove leaseId)

theorem shrinks_renew (now ttlSeconds : Nat) (leaseId : String) :
    Shrinks runtime (runtime.renew now ttlSeconds key leaseId) := by
  rw [renew]
  cases found : runtime.lookup key with
  | none => exact .refl
  | some state =>
    have own := runtime.bucket_of_lookup key found
    dsimp only
    split
    next admitted => exact .insert (own ▸ DownstreamLeaseState.shrinks_admit_known admitted _)
    next => exact .refl

theorem shrinks_markWaiting (now : Nat) (leaseId : String) :
    Shrinks runtime (runtime.markWaiting now key leaseId).2 := by
  rw [markWaiting]
  cases found : runtime.lookup key with
  | none => exact .refl
  | some state =>
    have own := runtime.bucket_of_lookup key found
    have pruned : (runtime.bucket key).Shrinks (state.pruneExpired now) := by
      rw [own]
      exact DownstreamLeaseState.shrinks_pruneExpired now
    dsimp only
    split
    next admitted =>
      refine .insert (pruned.trans (DownstreamLeaseState.shrinks_waiting ?_))
      intro consistent waitingId waits
      rcases Finset.mem_insert.1 waits with rfl | waits
      next => exact admitted
      next => exact consistent waitingId waits
    next => exact .insert pruned

theorem shrinks_unmarkWaiting (leaseId : String) :
    Shrinks runtime (runtime.unmarkWaiting key leaseId) := by
  rw [unmarkWaiting]
  cases found : runtime.lookup key with
  | none => exact .refl
  | some state =>
    rw [← runtime.bucket_of_lookup key found]
    refine .insert (DownstreamLeaseState.shrinks_waiting ?_)
    intro consistent waitingId waits
    exact consistent waitingId (Finset.mem_of_mem_erase waits)

theorem shrinks_pruneDownstream (clock : DownstreamLeaseKey → Nat) (downstreamId : String) :
    Shrinks runtime (runtime.pruneDownstream clock downstreamId) := by
  refine .mapEntries ?_ ?_
  · intro other state
    split
    next => exact DownstreamLeaseState.shrinks_pruneExpired (clock other)
    next => exact .refl
  · intro other
    simp [DownstreamLeaseState.isEmpty]

theorem shrinks_pruneAll (now : Nat) : Shrinks runtime (runtime.pruneAll now) :=
  .mapEntries (fun _ _ => DownstreamLeaseState.shrinks_pruneExpired now) fun _ => rfl

theorem shrinks_clear (downstreamId : String) : Shrinks runtime (runtime.clear downstreamId) where
  buckets other := by
    rw [bucket_clear]
    split
    next => exact .empty
    next => exact .refl
  total other := by
    rw [downstreamTotalAdmitted_eq_total, downstreamTotalAdmitted_eq_total]
    exact Table.total_retain_le _ _ _

end DownstreamRuntime

namespace DownstreamRuntime

variable {runtime after : DownstreamRuntime} {clock : ReserveClock} {ttlSeconds : Nat}
  {leaseId : String} {downstream : DownstreamConfig} {group : Option ModelConcurrencyGroup}

-- A reservation fails on the pruned table, or finds both caps free and admits its lease.
theorem tryReserve_eq (runtime : DownstreamRuntime) (clock : ReserveClock) (ttlSeconds : Nat)
    (leaseId : String) (downstream : DownstreamConfig) (group : Option ModelConcurrencyGroup)
    {key : DownstreamLeaseKey} (keyed : key = ⟨downstream.id, leaseGroupName group⟩)
    {pruned : DownstreamRuntime} (swept : pruned = runtime.pruneGroup clock.groupPrune key group) :
    runtime.tryReserve clock ttlSeconds leaseId downstream group =
      match pruned.groupRejection key group <|> pruned.globalRejection downstream key.groupName with
      | some rejection => (some rejection, pruned)
      | none => (none, pruned.admitLease clock ttlSeconds leaseId key) := by
  subst keyed swept
  rfl

theorem tryReserve_cases (runtime : DownstreamRuntime) (clock : ReserveClock) (ttlSeconds : Nat)
    (leaseId : String) (downstream : DownstreamConfig) (group : Option ModelConcurrencyGroup) :
    let key : DownstreamLeaseKey := ⟨downstream.id, leaseGroupName group⟩
    let pruned := runtime.pruneGroup clock.groupPrune key group
    (∃ rejection, runtime.tryReserve clock ttlSeconds leaseId downstream group =
      (some rejection, pruned)) ∨
    ((∀ matched, group = some matched →
        (pruned.bucket key).held < max matched.maxConcurrency 1) ∧
      downstreamTotalAdmitted pruned downstream.id < max downstream.maxConcurrency 1 ∧
      runtime.tryReserve clock ttlSeconds leaseId downstream group =
        (none, pruned.admitLease clock ttlSeconds leaseId key)) := by
  intro key pruned
  rw [runtime.tryReserve_eq clock ttlSeconds leaseId downstream group (rfl : key = _)
    (rfl : pruned = _)]
  cases rejected : pruned.groupRejection key group <|>
      pruned.globalRejection downstream key.groupName with
  | some rejection => exact .inl ⟨rejection, rfl⟩
  | none =>
    obtain ⟨groupFree, globalFree⟩ : pruned.groupRejection key group = none ∧
        pruned.globalRejection downstream key.groupName = none := by
      simpa using rejected
    refine .inr ⟨?_, ?_, rfl⟩
    · rintro matched rfl
      by_contra full
      rw [groupRejection, if_pos (Nat.not_lt.1 full)] at groupFree
      cases groupFree
    · by_contra full
      rw [globalRejection, if_pos (Nat.not_lt.1 full)] at globalFree
      cases globalFree

end DownstreamRuntime

theorem tryReserveDownstreamConcurrency_eq {runtime pruned : DownstreamRuntime}
    {downstream : DownstreamConfig} (enabled : downstream.rateLimitEnabled) (clock : ReserveClock)
    (ttlSeconds : Nat) (leaseId : String) (releaseCell : Nat) {model : Text} {caseInsensitive : Bool}
    {group : Option ModelConcurrencyGroup}
    (grouped : group = downstream.concurrencyGroupForModel model caseInsensitive)
    {key : DownstreamLeaseKey} (keyed : key = ⟨downstream.id, leaseGroupName group⟩)
    (swept : pruned = runtime.pruneGroup clock.groupPrune key group) :
    tryReserveDownstreamConcurrency runtime clock ttlSeconds leaseId releaseCell downstream model
        caseInsensitive =
      match pruned.groupRejection key group <|> pruned.globalRejection downstream key.groupName with
      | some rejection => (.error rejection, pruned)
      | none => (.ok ⟨downstream.id, leaseGroupName group, some leaseId, releaseCell⟩,
          pruned.admitLease clock ttlSeconds leaseId key) := by
  have reserved := runtime.tryReserve_eq clock ttlSeconds leaseId downstream group keyed swept
  rw [tryReserveDownstreamConcurrency, enabled, Bool.not_true, if_neg Bool.false_ne_true]
  dsimp only
  rw [← grouped, reserved]
  cases pruned.groupRejection key group <|> pruned.globalRejection downstream key.groupName <;> rfl

theorem DownstreamRuntime.release_absent (runtime : DownstreamRuntime) (key : DownstreamLeaseKey)
    (leaseId : String) : leaseId ∉ ((runtime.release key leaseId).2.bucket key).admitted := by
  rw [release]
  cases found : runtime.lookup key with
  | none =>
    rw [bucket, found]
    exact AList.notMem_empty _
  | some state =>
    dsimp only
    split
    next =>
      rw [bucket_erase, if_pos rfl]
      exact AList.notMem_empty _
    next =>
      rw [bucket_insert, if_pos rfl, DownstreamLeaseState.remove_admitted]
      exact fun both => both.1 rfl

namespace LocalLeases

variable {configs : String → DownstreamConfig} {state : LocalLeases}

def WithinGroupCap (downstream : DownstreamConfig) (groupName : String) (held : Nat) : Prop :=
  ∃ group ∈ downstream.modelConcurrencyGroups,
    group.name = groupName ∧ held ≤ max group.maxConcurrency 1

structure Sound (configs : String → DownstreamConfig) (state : LocalLeases) : Prop where
  groupCap : ∀ key, key.groupName ≠ "" → (state.runtime.bucket key).held ≠ 0 →
    WithinGroupCap (configs key.downstreamId) key.groupName (state.runtime.bucket key).held
  totalCap : ∀ downstreamId, downstreamTotalAdmitted state.runtime downstreamId ≤
    max (configs downstreamId).maxConcurrency 1
  consistent : ∀ key, (state.runtime.bucket key).Consistent
  /-- An admitted lease is one that was handed out for this bucket and not yet given back. -/
  owned : ∀ key leaseId, leaseId ∈ (state.runtime.bucket key).admitted →
    ∃ lease ∈ state.issued, lease.key = key ∧ lease.leaseId = some leaseId ∧
      ¬(state.cells lease.releaseCell).IsOver
  cells : ∀ index (inside : index < state.issued.length),
    state.issued[index].releaseCell = index
  unused : ∀ cell, state.issued.length ≤ cell → state.cells cell = .active
  ids : ∀ lease ∈ state.issued, ∀ other ∈ state.issued, ∀ leaseId,
    lease.leaseId = some leaseId → other.leaseId = some leaseId → other = lease

theorem sound_empty : Sound configs {} where
  groupCap key _ nonempty := absurd rfl nonempty
  totalCap downstreamId := Nat.zero_le _
  consistent key waitingId waits := by cases waits
  owned key leaseId admitted := by cases admitted
  cells index inside := by cases inside
  unused _ _ := rfl
  ids lease known := by cases known

theorem Sound.shrink (sound : state.Sound configs) {runtime : DownstreamRuntime}
    (shrinks : state.runtime.Shrinks runtime) : Sound configs { state with runtime } where
  groupCap key named nonempty := by
    have less := (shrinks.buckets key).held
    obtain ⟨group, known, same, within⟩ := sound.groupCap key named
      fun empty => nonempty (Nat.le_zero.1 (empty ▸ less))
    exact ⟨group, known, same, less.trans within⟩
  totalCap downstreamId := (shrinks.total downstreamId).trans (sound.totalCap downstreamId)
  consistent key := (shrinks.buckets key).consistent (sound.consistent key)
  owned key leaseId admitted :=
    sound.owned key leaseId ((shrinks.buckets key).admitted leaseId admitted)
  cells := sound.cells
  unused := sound.unused
  ids := sound.ids

theorem Sound.cell_lt (sound : state.Sound configs) {lease : DownstreamConcurrencyLease}
    (known : lease ∈ state.issued) : lease.releaseCell < state.issued.length := by
  obtain ⟨index, inside, rfl⟩ := List.mem_iff_getElem.1 known
  rwa [sound.cells index inside]

theorem Sound.same_cell (sound : state.Sound configs) {lease other : DownstreamConcurrencyLease}
    (known : lease ∈ state.issued) (also : other ∈ state.issued)
    (same : other.releaseCell = lease.releaseCell) : other = lease := by
  obtain ⟨index, inside, rfl⟩ := List.mem_iff_getElem.1 known
  obtain ⟨second, within, rfl⟩ := List.mem_iff_getElem.1 also
  rw [sound.cells index inside, sound.cells second within] at same
  subst same
  rfl

theorem Sound.setCell (sound : state.Sound configs) {lease : DownstreamConcurrencyLease}
    (known : lease ∈ state.issued) {stage : ReleaseStage}
    (gone : stage.IsOver → ∀ leaseId, lease.leaseId = some leaseId → ∀ key,
      leaseId ∉ (state.runtime.bucket key).admitted) :
    Sound configs (state.setCell lease.releaseCell stage) where
  groupCap := sound.groupCap
  totalCap := sound.totalCap
  consistent := sound.consistent
  owned key leaseId admitted := by
    obtain ⟨owner, issued, own, named, going⟩ := sound.owned key leaseId admitted
    refine ⟨owner, issued, own, named, ?_⟩
    by_cases same : owner.releaseCell = lease.releaseCell
    · obtain rfl := sound.same_cell known issued same
      intro isOver
      rw [setCell_cells, if_pos rfl] at isOver
      exact gone isOver leaseId named key admitted
    · rwa [setCell_cells, if_neg same]
  cells := sound.cells
  unused cell beyond := by
    rw [setCell_cells, if_neg]
    · exact sound.unused cell beyond
    · exact (Nat.lt_of_lt_of_le (sound.cell_lt known) beyond).ne'
  ids := sound.ids

theorem Sound.absent_of_over (sound : state.Sound configs) {lease : DownstreamConcurrencyLease}
    (known : lease ∈ state.issued) (isOver : (state.cells lease.releaseCell).IsOver) {leaseId : String}
    (named : lease.leaseId = some leaseId) (key : DownstreamLeaseKey) :
    leaseId ∉ (state.runtime.bucket key).admitted := by
  intro admitted
  obtain ⟨owner, issued, -, same, going⟩ := sound.owned key leaseId admitted
  obtain rfl := sound.ids lease known owner issued leaseId named same
  exact going isOver

theorem Sound.own_bucket (sound : state.Sound configs) {lease : DownstreamConcurrencyLease}
    (known : lease ∈ state.issued) {leaseId : String} (named : lease.leaseId = some leaseId)
    {key : DownstreamLeaseKey} (admitted : leaseId ∈ (state.runtime.bucket key).admitted) :
    key = lease.key := by
  obtain ⟨owner, issued, own, same, -⟩ := sound.owned key leaseId admitted
  obtain rfl := sound.ids lease known owner issued leaseId named same
  exact own.symm

theorem Sound.remove (sound : state.Sound configs) {lease : DownstreamConcurrencyLease}
    (known : lease ∈ state.issued) : Sound configs (state.apply (.removeLease lease)) := by
  have shrinks : state.runtime.Shrinks
      (onLease lease state.runtime fun key id => (state.runtime.release key id).2) := by
    rw [onLease]
    split
    next => exact .refl
    next leaseId _ => exact DownstreamRuntime.shrinks_release leaseId
  refine (sound.shrink shrinks).setCell known ?_
  intro _ leaseId named key admitted
  have before := (shrinks.buckets key).admitted leaseId admitted
  obtain rfl := sound.own_bucket known named before
  simp only [onLease, named] at admitted
  exact state.runtime.release_absent lease.key leaseId admitted

theorem Sound.extend (sound : state.Sound configs) {lease : DownstreamConcurrencyLease}
    (cell : lease.releaseCell = state.issued.length)
    (fresh : ∀ leaseId, lease.leaseId = some leaseId →
      ∀ other ∈ state.issued, other.leaseId ≠ some leaseId) :
    Sound configs { state with issued := state.issued ++ [lease] } where
  groupCap := sound.groupCap
  totalCap := sound.totalCap
  consistent := sound.consistent
  owned key leaseId admitted := by
    obtain ⟨owner, issued, rest⟩ := sound.owned key leaseId admitted
    exact ⟨owner, List.mem_append_left _ issued, rest⟩
  cells index inside := by
    rw [List.getElem_append]
    split
    next before => exact sound.cells index before
    next beyond =>
      have last : index = state.issued.length := by
        simp only [List.length_append, List.length_singleton] at inside
        omega
      simp [cell, last]
  unused other beyond := sound.unused other (by
    simp only [List.length_append, List.length_singleton] at beyond
    omega)
  ids first known second also leaseId named same := by
    rcases List.mem_append.1 known with before | last <;>
      rcases List.mem_append.1 also with earlier | latest
    next => exact sound.ids first before second earlier leaseId named same
    next =>
      obtain rfl := List.mem_singleton.1 latest
      exact absurd named (fresh leaseId same first before)
    next =>
      obtain rfl := List.mem_singleton.1 last
      exact absurd same (fresh leaseId named second earlier)
    next =>
      obtain rfl := List.mem_singleton.1 last
      exact List.mem_singleton.1 latest

-- A lease that was handed out is admitted to its bucket, where both caps have room.
theorem Sound.admitOne (sound : state.Sound configs) {lease : DownstreamConcurrencyLease}
    (known : lease ∈ state.issued) {leaseId : String} (named : lease.leaseId = some leaseId)
    (going : ¬(state.cells lease.releaseCell).IsOver) (clock : ReserveClock) (ttlSeconds : Nat)
    (groupFree : lease.groupName ≠ "" → ∃ group ∈ (configs lease.downstreamId).modelConcurrencyGroups,
      group.name = lease.groupName ∧
        (state.runtime.bucket lease.key).held < max group.maxConcurrency 1)
    (totalFree : downstreamTotalAdmitted state.runtime lease.downstreamId <
      max (configs lease.downstreamId).maxConcurrency 1) :
    Sound configs { state with
      runtime := state.runtime.admitLease clock ttlSeconds leaseId lease.key } := by
  have pruned := @DownstreamLeaseState.shrinks_pruneExpired
    (state.runtime.bucket lease.key) clock.prune
  -- the new lease is one more than what is left of the pruned bucket
  have grown : ∀ expiresAt, (((state.runtime.bucket lease.key).pruneExpired clock.prune).admitOne
      leaseId expiresAt).held ≤ (state.runtime.bucket lease.key).held + 1 := by
    intro expiresAt
    have less := pruned.held
    rw [DownstreamLeaseState.admit_held]
    split <;> omega
  refine ⟨?_, ?_, ?_, ?_, sound.cells, sound.unused, sound.ids⟩
  · intro key grouped nonempty
    simp only [DownstreamRuntime.admitLease, DownstreamRuntime.bucket_insert] at nonempty ⊢
    by_cases own : key = lease.key
    · subst own
      obtain ⟨group, configured, same, room⟩ := groupFree grouped
      rw [if_pos rfl]
      exact ⟨group, configured, same, (grown _).trans room⟩
    · rw [if_neg own] at nonempty ⊢
      exact sound.groupCap key grouped nonempty
  · intro downstreamId
    have moved := @DownstreamRuntime.total_of_insert state.runtime lease.key downstreamId
      (((state.runtime.bucket lease.key).pruneExpired clock.prune).admitOne leaseId
        (saturatingAdd64 clock.admitOne (downstreamLeaseDurationMs ttlSeconds)))
    have before := sound.totalCap downstreamId
    have more := grown (saturatingAdd64 clock.admitOne (downstreamLeaseDurationMs ttlSeconds))
    simp only [DownstreamRuntime.heldFor] at moved
    simp only [DownstreamRuntime.admitLease]
    split at moved
    next own =>
      subst own
      have room : downstreamTotalAdmitted state.runtime lease.key.downstreamId <
        max (configs lease.key.downstreamId).maxConcurrency 1 := totalFree
      omega
    next => omega
  · intro key
    simp only [DownstreamRuntime.admitLease, DownstreamRuntime.bucket_insert]
    split
    next =>
      exact DownstreamLeaseState.admit_consistent
        (DownstreamLeaseState.pruneExpired_consistent _) _
    next => exact sound.consistent key
  · intro key other admitted
    simp only [DownstreamRuntime.admitLease, DownstreamRuntime.bucket_insert] at admitted
    split at admitted
    next own =>
      subst own
      rcases DownstreamLeaseState.admit_admitted.1 admitted with rfl | earlier
      · exact ⟨lease, known, rfl, named, going⟩
      · exact sound.owned lease.key other (pruned.admitted other earlier)
    next => exact sound.owned key other admitted

-- A reservation hands out a lease without limits, or fails on the pruned table, or admits a
-- lease where both caps have room.
theorem reserve_cases (state : LocalLeases) (downstream : DownstreamConfig) (model : Text)
    (caseInsensitive : Bool) (clock : ReserveClock) (ttlSeconds : Nat) (leaseId : String) :
    let group := downstream.concurrencyGroupForModel model caseInsensitive
    let key : DownstreamLeaseKey := ⟨downstream.id, leaseGroupName group⟩
    let pruned := state.runtime.pruneGroup clock.groupPrune key group
    let reserved := state.reserve downstream model caseInsensitive clock ttlSeconds leaseId
    (∃ lease : DownstreamConcurrencyLease, lease.leaseId = none ∧
      lease.releaseCell = state.issued.length ∧
      reserved = (.ok lease, { state with issued := state.issued ++ [lease] })) ∨
    (∃ rejection, reserved = (.error rejection, { state with runtime := pruned })) ∨
    ((∀ matched, group = some matched →
        (pruned.bucket key).held < max matched.maxConcurrency 1) ∧
      downstreamTotalAdmitted pruned downstream.id < max downstream.maxConcurrency 1 ∧
      ∃ lease : DownstreamConcurrencyLease, lease.key = key ∧ lease.leaseId = some leaseId ∧
        lease.releaseCell = state.issued.length ∧
        reserved = (.ok lease,
          { state with
            runtime := pruned.admitLease clock ttlSeconds leaseId key
            issued := state.issued ++ [lease] })) := by
  intro group key pruned reserved
  simp only [reserved, reserve, tryReserveDownstreamConcurrency]
  cases downstream.rateLimitEnabled with
  | false => exact .inl ⟨_, rfl, rfl, rfl⟩
  | true =>
    rcases DownstreamRuntime.tryReserve_cases state.runtime clock ttlSeconds leaseId downstream group
      with ⟨rejection, failed⟩ | ⟨groupFree, totalFree, succeeded⟩
    · refine .inr (.inl ⟨rejection, ?_⟩)
      rw [failed]
      rfl
    · refine .inr (.inr ⟨groupFree, totalFree, ⟨downstream.id, leaseGroupName group, some leaseId,
        state.issued.length⟩, rfl, rfl, rfl, ?_⟩)
      rw [succeeded]
      rfl

theorem Sound.reserve (sound : state.Sound configs) {downstream : DownstreamConfig}
    (configured : configs downstream.id = downstream) {leaseId : String}
    (fresh : ∀ lease ∈ state.issued, lease.leaseId ≠ some leaseId) (model : Text)
    (caseInsensitive : Bool) (clock : ReserveClock) (ttlSeconds : Nat) :
    Sound configs (state.reserve downstream model caseInsensitive clock ttlSeconds leaseId).2 := by
  rcases reserve_cases state downstream model caseInsensitive clock ttlSeconds leaseId with
    ⟨lease, unlimited, cell, reserved⟩ | ⟨rejection, reserved⟩ |
      ⟨groupFree, totalFree, lease, own, named, cell, reserved⟩
  · rw [reserved]
    refine sound.extend cell ?_
    intro otherId limited
    rw [unlimited] at limited
    cases limited
  · rw [reserved]
    exact sound.shrink (DownstreamRuntime.shrinks_pruneGroup _ _ _)
  · rw [reserved]
    obtain ⟨downstreamId, groupName, known, releaseCell⟩ := lease
    obtain ⟨rfl, rfl⟩ := DownstreamLeaseKey.mk.inj own
    obtain rfl := named
    have pruned := (sound.shrink (DownstreamRuntime.shrinks_pruneGroup clock.groupPrune
      ⟨downstream.id, leaseGroupName (downstream.concurrencyGroupForModel model caseInsensitive)⟩
      (downstream.concurrencyGroupForModel model caseInsensitive))).extend cell (by
        intro otherId same
        obtain rfl := Option.some.inj same
        exact fresh)
    refine pruned.admitOne (List.mem_append_right _ (List.mem_singleton.2 rfl)) rfl ?_ clock ttlSeconds
      ?_ ?_
    · have active := sound.unused _ le_rfl
      rw [← cell] at active
      simp [active, ReleaseStage.IsOver]
    · intro nonempty
      rw [configured]
      cases matched : downstream.concurrencyGroupForModel model caseInsensitive with
      | none =>
        rw [matched] at nonempty
        exact absurd rfl nonempty
      | some group =>
        refine ⟨group, DownstreamConfig.concurrencyGroupForModel_mem matched, rfl, ?_⟩
        rw [matched] at groupFree
        exact groupFree group rfl
    · rw [configured]
      exact totalFree

theorem Sound.step {before after : LocalLeases} {op : LocalLeaseOp} (sound : before.Sound configs)
    (taken : Step configs before op after) : after.Sound configs := by
  obtain ⟨enabled, rfl⟩ := taken
  -- an operation on the bucket of a lease is none for a lease without limits
  have onBucket : ∀ (lease : DownstreamConcurrencyLease) change,
      (∀ leaseId, before.runtime.Shrinks (change lease.key leaseId)) →
        before.runtime.Shrinks (onLease lease before.runtime change) := by
    intro lease change shrinks
    rw [onLease]
    split
    next => exact .refl
    next leaseId _ => exact shrinks leaseId
  cases op with
  | reserve downstream model caseInsensitive clock ttlSeconds leaseId =>
    exact sound.reserve enabled.1 enabled.2 model caseInsensitive clock ttlSeconds
  | renew lease now ttlSeconds =>
    exact sound.shrink (onBucket lease _ (DownstreamRuntime.shrinks_renew now ttlSeconds))
  | acquireRelease lease =>
    refine sound.setCell enabled ?_
    intro isOver leaseId named key
    refine sound.absent_of_over enabled ?_ named key
    cases stage : before.cells lease.releaseCell <;> rw [stage] at isOver
    case active => rcases isOver with isOver | isOver <;> cases isOver
    all_goals exact isOver
  | removeLease lease => exact sound.remove enabled.1
  | completeRelease lease =>
    exact sound.setCell enabled.1 fun _ leaseId named key =>
      sound.absent_of_over enabled.1 (.inl enabled.2) named key
  | dropGuard lease =>
    refine sound.setCell enabled.1 ?_
    rintro (isOver | isOver) <;> cases isOver
  | markWaiting lease now =>
    exact sound.shrink (onBucket lease _ (DownstreamRuntime.shrinks_markWaiting now))
  | unmarkWaiting lease =>
    exact sound.shrink (onBucket lease _ DownstreamRuntime.shrinks_unmarkWaiting)
  | snapshot clock downstreamId =>
    exact sound.shrink (DownstreamRuntime.shrinks_pruneDownstream clock downstreamId)
  | allSnapshots now downstreamIds =>
    exact sound.shrink (DownstreamRuntime.shrinks_pruneAll now)
  | clear downstreamId => exact sound.shrink (DownstreamRuntime.shrinks_clear downstreamId)

theorem Sound.later {before after : LocalLeases} (sound : before.Sound configs)
    (run : Later configs before after) : after.Sound configs :=
  run.invariant (Sound configs) (fun _ _ _ taken _ sound => sound.step taken) sound

theorem Reachable.sound (reachable : state.Reachable configs) : state.Sound configs :=
  sound_empty.later reachable

theorem Step.issued {before after : LocalLeases} {op : LocalLeaseOp}
    (taken : Step configs before op after) {lease : DownstreamConcurrencyLease}
    (known : lease ∈ before.issued) : lease ∈ after.issued := by
  obtain ⟨-, rfl⟩ := taken
  cases op
  case reserve downstream model caseInsensitive clock ttlSeconds leaseId =>
    rcases reserve_cases before downstream model caseInsensitive clock ttlSeconds leaseId with
      ⟨other, -, -, reserved⟩ | ⟨rejection, reserved⟩ | ⟨-, -, other, -, -, -, reserved⟩
    all_goals simp [apply, reserved, known]
  all_goals exact known

theorem Step.isOver {before after : LocalLeases} {op : LocalLeaseOp}
    (taken : Step configs before op after) {cell : Nat} (isOver : (before.cells cell).IsOver) :
    (after.cells cell).IsOver := by
  obtain ⟨enabled, rfl⟩ := taken
  cases op
  case reserve downstream model caseInsensitive clock ttlSeconds leaseId =>
    rcases reserve_cases before downstream model caseInsensitive clock ttlSeconds leaseId with
      ⟨other, -, -, reserved⟩ | ⟨rejection, reserved⟩ | ⟨-, -, other, -, -, -, reserved⟩
    all_goals simpa [apply, reserved] using isOver
  case acquireRelease lease =>
    rw [apply, setCell_cells]
    split
    next same =>
      subst same
      rcases isOver with stage | stage <;> rw [stage] <;> simp [ReleaseStage.acquire, ReleaseStage.IsOver]
    next => exact isOver
  case removeLease lease =>
    change ((before.setCell lease.releaseCell .removed).cells cell).IsOver
    rw [setCell_cells]
    split
    next => exact .inl rfl
    next => exact isOver
  case completeRelease lease =>
    rw [apply, setCell_cells]
    split
    next => exact .inr rfl
    next => exact isOver
  case dropGuard lease =>
    rw [apply, setCell_cells]
    split
    next same =>
      subst same
      rw [enabled.2] at isOver
      rcases isOver with stage | stage <;> cases stage
    next => exact isOver
  all_goals exact isOver

theorem Later.isOver {before after : LocalLeases} (run : Later configs before after)
    {lease : DownstreamConcurrencyLease} (known : lease ∈ before.issued)
    (isOver : (before.cells lease.releaseCell).IsOver) :
    lease ∈ after.issued ∧ (after.cells lease.releaseCell).IsOver :=
  run.invariant (fun state => lease ∈ state.issued ∧ (state.cells lease.releaseCell).IsOver)
    (fun _ _ _ taken _ held => ⟨taken.issued held.1, taken.isOver held.2⟩) ⟨known, isOver⟩

end LocalLeases

end ChatGateway
