import ChatGateway.Local.DownstreamConfig
import Mathlib.Data.Finset.Card

set_option autoImplicit false

/-!
# Downstream concurrency leases of one process

The table of admitted and waiting leases, one bucket for each downstream and model group, and the
operations that change it. Each of them holds the lock of the table from its first to its last
access.
-/

namespace ChatGateway

structure DownstreamLeaseState where
  /-- The admitted leases with the time each lapses, in milliseconds. -/
  admitted : Table String Nat := ∅
  waiting : Finset String := ∅
deriving DecidableEq

namespace DownstreamLeaseState

def pruneExpired (state : DownstreamLeaseState) (now : Nat) : DownstreamLeaseState :=
  let admitted := state.admitted.retain fun _ expiresAt => now < expiresAt
  { admitted, waiting := state.waiting.filter (· ∈ admitted) }

def isEmpty (state : DownstreamLeaseState) : Bool :=
  state.admitted.entries.isEmpty && state.waiting = ∅

def held (state : DownstreamLeaseState) : Nat :=
  state.admitted.entries.length

def admitOne (state : DownstreamLeaseState) (leaseId : String) (expiresAt : Nat) :
    DownstreamLeaseState :=
  { state with admitted := state.admitted.insert leaseId expiresAt }

def remove (state : DownstreamLeaseState) (leaseId : String) : DownstreamLeaseState :=
  { admitted := state.admitted.erase leaseId, waiting := state.waiting.erase leaseId }

end DownstreamLeaseState

structure DownstreamLeaseKey where
  downstreamId : String
  groupName : String
deriving DecidableEq

abbrev DownstreamRuntime := Table DownstreamLeaseKey DownstreamLeaseState

def DownstreamRuntime.bucket (runtime : DownstreamRuntime) (key : DownstreamLeaseKey) :
    DownstreamLeaseState :=
  (runtime.lookup key).getD {}

def downstreamTotalAdmitted (runtime : DownstreamRuntime) (downstreamId : String) : Nat :=
  ((runtime.entries.filter fun entry => entry.1.downstreamId = downstreamId).map
    fun entry => entry.2.held).sum

structure DownstreamConcurrencyLease where
  downstreamId : String
  groupName : String
  leaseId : Option String
  releaseCell : Nat
deriving DecidableEq

def DownstreamConcurrencyLease.key (lease : DownstreamConcurrencyLease) : DownstreamLeaseKey :=
  ⟨lease.downstreamId, lease.groupName⟩

structure ReserveClock where
  groupPrune : Nat
  prune : Nat
  admitOne : Nat

def ReserveClock.at (now : Nat) : ReserveClock :=
  ⟨now, now, now⟩

def downstreamLeaseDurationMs (ttlSeconds : Nat) : Nat :=
  max (saturatingMul64 ttlSeconds 1000) 60000

def leaseGroupName (group : Option ModelConcurrencyGroup) : String :=
  (group.map ModelConcurrencyGroup.name).getD ""

namespace DownstreamRuntime

def pruneGroup (runtime : DownstreamRuntime) (now : Nat) (key : DownstreamLeaseKey)
    (group : Option ModelConcurrencyGroup) : DownstreamRuntime :=
  if group.isSome then runtime.insert key ((runtime.bucket key).pruneExpired now) else runtime

def groupRejection (runtime : DownstreamRuntime) (key : DownstreamLeaseKey) :
    Option ModelConcurrencyGroup → Option DownstreamAdmissionRejection
  | none => none
  | some group =>
    if max group.maxConcurrency 1 ≤ (runtime.bucket key).held then
      some (.concurrencyLimitExceeded 1 (max group.maxConcurrency 1) (some key.groupName))
    else none

def globalRejection (runtime : DownstreamRuntime) (downstream : DownstreamConfig)
    (groupName : String) : Option DownstreamAdmissionRejection :=
  if max downstream.maxConcurrency 1 ≤ downstreamTotalAdmitted runtime downstream.id then
    some (.concurrencyLimitExceeded 1 (max downstream.maxConcurrency 1)
      (if groupName = "" then none else some groupName))
  else none

def admitLease (runtime : DownstreamRuntime) (clock : ReserveClock) (ttlSeconds : Nat)
    (leaseId : String) (key : DownstreamLeaseKey) : DownstreamRuntime :=
  runtime.insert key (((runtime.bucket key).pruneExpired clock.prune).admitOne leaseId
    (saturatingAdd64 clock.admitOne (downstreamLeaseDurationMs ttlSeconds)))

/-- `try_reserve_downstream_concurrency` for a key with limits. -/
def tryReserve (runtime : DownstreamRuntime) (clock : ReserveClock) (ttlSeconds : Nat)
    (leaseId : String) (downstream : DownstreamConfig) (group : Option ModelConcurrencyGroup) :
    Option DownstreamAdmissionRejection × DownstreamRuntime :=
  let key : DownstreamLeaseKey := ⟨downstream.id, leaseGroupName group⟩
  let runtime := runtime.pruneGroup clock.groupPrune key group
  match runtime.groupRejection key group <|> runtime.globalRejection downstream key.groupName with
  | some rejection => (some rejection, runtime)
  | none => (none, runtime.admitLease clock ttlSeconds leaseId key)

def release (runtime : DownstreamRuntime) (key : DownstreamLeaseKey) (leaseId : String) :
    Bool × DownstreamRuntime :=
  match runtime.lookup key with
  | none => (false, runtime)
  | some state =>
    let state := state.remove leaseId
    if state.isEmpty then (true, runtime.erase key) else (false, runtime.insert key state)

def renew (runtime : DownstreamRuntime) (now ttlSeconds : Nat) (key : DownstreamLeaseKey)
    (leaseId : String) : DownstreamRuntime :=
  match runtime.lookup key with
  | none => runtime
  | some state =>
    if leaseId ∈ state.admitted then
      runtime.insert key
        (state.admitOne leaseId (saturatingAdd64 now (downstreamLeaseDurationMs ttlSeconds)))
    else runtime

def markWaiting (runtime : DownstreamRuntime) (now : Nat) (key : DownstreamLeaseKey)
    (leaseId : String) : Option Unit × DownstreamRuntime :=
  match runtime.lookup key with
  | none => (none, runtime)
  | some state =>
    let state := state.pruneExpired now
    if leaseId ∈ state.admitted then
      (some (), runtime.insert key { state with waiting := insert leaseId state.waiting })
    else (none, runtime.insert key state)

def unmarkWaiting (runtime : DownstreamRuntime) (key : DownstreamLeaseKey) (leaseId : String) :
    DownstreamRuntime :=
  match runtime.lookup key with
  | none => runtime
  | some state => runtime.insert key { state with waiting := state.waiting.erase leaseId }

def clear (runtime : DownstreamRuntime) (downstreamId : String) : DownstreamRuntime :=
  runtime.retain fun key _ => key.downstreamId ≠ downstreamId

def pruneAll (runtime : DownstreamRuntime) (now : Nat) : DownstreamRuntime :=
  runtime.mapEntries fun _ state => state.pruneExpired now

end DownstreamRuntime

def saturatingAdd32 (left right : Nat) : Nat :=
  min (left + right) (2 ^ 32 - 1)

structure DownstreamRuntimeCounts where
  admitted : Nat
  waitingUpstream : Nat
  running : Nat
deriving DecidableEq

namespace DownstreamRuntime

def addLeases (counts : Nat × Nat) (state : DownstreamLeaseState) : Nat × Nat :=
  (saturatingAdd32 counts.1 (min state.held (2 ^ 32 - 1)),
    saturatingAdd32 counts.2 (min state.waiting.card (2 ^ 32 - 1)))

def countLeases (runtime : DownstreamRuntime) (downstreamId : String) : Nat × Nat :=
  (runtime.entries.filter fun entry => entry.1.downstreamId = downstreamId).foldl
    (fun counts entry => addLeases counts entry.2) (0, 0)

def checkedCounts (counts : Nat × Nat) : Option DownstreamRuntimeCounts :=
  if counts.2 ≤ counts.1 then some ⟨counts.1, counts.2, counts.1 - counts.2⟩ else none

def pruneDownstream (runtime : DownstreamRuntime) (clock : DownstreamLeaseKey → Nat)
    (downstreamId : String) : DownstreamRuntime :=
  runtime.mapEntries fun key state =>
    if key.downstreamId = downstreamId ∧ ¬state.isEmpty then state.pruneExpired (clock key)
    else state

/-- `downstream_runtime_snapshot` -/
def snapshot (runtime : DownstreamRuntime) (clock : DownstreamLeaseKey → Nat)
    (downstreamId : String) : Option DownstreamRuntimeCounts × DownstreamRuntime :=
  let runtime := runtime.pruneDownstream clock downstreamId
  (checkedCounts (runtime.countLeases downstreamId), runtime)

/-- `all_downstream_runtime_snapshots`, where a failed difference shows as not available. -/
def allSnapshots (runtime : DownstreamRuntime) (now : Nat) (downstreamIds : List String) :
    List (String × Option DownstreamRuntimeCounts) × DownstreamRuntime :=
  let runtime := runtime.pruneAll now
  (downstreamIds.map fun downstreamId =>
    (downstreamId, checkedCounts (runtime.countLeases downstreamId)), runtime)

end DownstreamRuntime

namespace DownstreamLeaseState

variable {state : DownstreamLeaseState} {leaseId : String}

def Consistent (state : DownstreamLeaseState) : Prop :=
  ∀ leaseId ∈ state.waiting, leaseId ∈ state.admitted

theorem pruneExpired_admitted {now : Nat} :
    leaseId ∈ (state.pruneExpired now).admitted ↔
      ∃ expiresAt ∈ state.admitted.lookup leaseId, now < expiresAt := by
  rw [← AList.lookup_isSome]
  cases found : state.admitted.lookup leaseId <;> simp [pruneExpired, found, Option.filter]

theorem pruneExpired_held_le (now : Nat) : (state.pruneExpired now).held ≤ state.held :=
  List.length_filter_le _ _

theorem pruneExpired_consistent (now : Nat) : (state.pruneExpired now).Consistent := by
  intro waitingId waits
  simpa [pruneExpired] using (Finset.mem_filter.1 waits).2

theorem admit_admitted {other : String} {expiresAt : Nat} :
    other ∈ (state.admitOne leaseId expiresAt).admitted ↔ other = leaseId ∨ other ∈ state.admitted :=
  AList.mem_insert _

theorem admit_consistent (consistent : state.Consistent) (expiresAt : Nat) :
    (state.admitOne leaseId expiresAt).Consistent :=
  fun waitingId waits => admit_admitted.2 (.inr (consistent waitingId waits))

theorem admit_held (expiresAt : Nat) :
    (state.admitOne leaseId expiresAt).held =
      if leaseId ∈ state.admitted then state.held else state.held + 1 := by
  have erased := Table.total_erase state.admitted leaseId fun _ _ => 1
  have inserted := Table.total_insert state.admitted leaseId expiresAt fun _ _ => 1
  simp only [Table.total_one] at erased inserted
  simp only [held, admitOne]
  by_cases known : leaseId ∈ state.admitted
  · obtain ⟨old, found⟩ := Option.isSome_iff_exists.1 (AList.lookup_isSome.2 known)
    rw [found, Option.map_some, Option.getD_some] at erased
    rw [if_pos known]
    omega
  · rw [AList.lookup_eq_none.2 known, Option.map_none, Option.getD_none] at erased
    rw [if_neg known]
    omega

theorem remove_admitted {other : String} :
    other ∈ (state.remove leaseId).admitted ↔ other ≠ leaseId ∧ other ∈ state.admitted :=
  AList.mem_erase

theorem remove_consistent (consistent : state.Consistent) : (state.remove leaseId).Consistent := by
  intro waitingId waits
  obtain ⟨apart, waiting⟩ := Finset.mem_erase.1 waits
  exact remove_admitted.2 ⟨apart, consistent waitingId waiting⟩

theorem remove_held_le : (state.remove leaseId).held ≤ state.held :=
  (List.Sublist.length_le (List.kerase_sublist _ _))

theorem waiting_card_le (consistent : state.Consistent) : state.waiting.card ≤ state.held := by
  have inside : state.waiting ⊆ state.admitted.keys.toFinset := fun waitingId waits =>
    List.mem_toFinset.2 (AList.mem_keys.1 (consistent waitingId waits))
  calc state.waiting.card ≤ state.admitted.keys.toFinset.card := Finset.card_le_card inside
    _ ≤ state.admitted.keys.length := List.toFinset_card_le _
    _ = state.held := by simp [held, AList.keys, List.keys]

end DownstreamLeaseState

namespace DownstreamRuntime

variable (runtime : DownstreamRuntime) (key other : DownstreamLeaseKey)

theorem bucket_insert (state : DownstreamLeaseState) :
    bucket (runtime.insert key state) other = if other = key then state else runtime.bucket other := by
  rw [bucket, Table.lookup_insert_eq]
  split <;> rfl

theorem bucket_erase :
    bucket (runtime.erase key) other = if other = key then {} else runtime.bucket other := by
  rw [bucket, Table.lookup_erase_eq]
  split <;> rfl

theorem bucket_of_lookup {state : DownstreamLeaseState} (found : runtime.lookup key = some state) :
    runtime.bucket key = state := by
  rw [bucket, found, Option.getD_some]

theorem bucket_clear (downstreamId : String) :
    (runtime.clear downstreamId).bucket key =
      if key.downstreamId = downstreamId then {} else runtime.bucket key := by
  rw [bucket, clear, Table.lookup_retain, bucket]
  by_cases cleared : key.downstreamId = downstreamId <;>
    cases runtime.lookup key <;> simp [cleared, Option.filter]

theorem bucket_mapEntries {f : DownstreamLeaseKey → DownstreamLeaseState → DownstreamLeaseState}
    (nothing : f key {} = {}) : bucket (runtime.mapEntries f) key = f key (runtime.bucket key) := by
  rw [bucket, Table.lookup_mapEntries, bucket]
  cases runtime.lookup key with
  | none => exact nothing.symm
  | some state => rfl

theorem bucket_pruneAll (now : Nat) :
    (runtime.pruneAll now).bucket key = (runtime.bucket key).pruneExpired now :=
  runtime.bucket_mapEntries key rfl

theorem bucket_pruneDownstream (clock : DownstreamLeaseKey → Nat) (downstreamId : String) :
    (runtime.pruneDownstream clock downstreamId).bucket key =
      if key.downstreamId = downstreamId ∧ ¬(runtime.bucket key).isEmpty then
        (runtime.bucket key).pruneExpired (clock key)
      else runtime.bucket key :=
  runtime.bucket_mapEntries key (by simp [DownstreamLeaseState.isEmpty])

theorem bucket_pruneGroup (now : Nat) (group : Option ModelConcurrencyGroup) :
    (runtime.pruneGroup now key group).bucket other =
      if other = key ∧ group.isSome then (runtime.bucket key).pruneExpired now
      else runtime.bucket other := by
  rw [pruneGroup]
  cases group with
  | none => simp
  | some group => simp [bucket_insert]

def heldFor (downstreamId : String) (key : DownstreamLeaseKey) (state : DownstreamLeaseState) : Nat :=
  if key.downstreamId = downstreamId then state.held else 0

variable {runtime key} (downstreamId : String)

theorem downstreamTotalAdmitted_eq_total :
    downstreamTotalAdmitted runtime downstreamId = runtime.total (heldFor downstreamId) := by
  rw [downstreamTotalAdmitted, Table.total]
  induction runtime.entries with
  | nil => rfl
  | cons entry rest ih =>
    by_cases own : entry.1.downstreamId = downstreamId
    · simp [own, heldFor, ih]
    · simp [own, heldFor, ih]

theorem heldFor_bucket :
    ((runtime.lookup key).map (heldFor downstreamId key)).getD 0 =
      heldFor downstreamId key (runtime.bucket key) := by
  rw [bucket]
  cases runtime.lookup key with
  | none => simp [heldFor, DownstreamLeaseState.held]
  | some state => rfl

theorem total_of_insert (state : DownstreamLeaseState) :
    downstreamTotalAdmitted (runtime.insert key state) downstreamId +
        heldFor downstreamId key (runtime.bucket key) =
      downstreamTotalAdmitted runtime downstreamId + heldFor downstreamId key state := by
  have erased := Table.total_erase runtime key (heldFor downstreamId)
  have inserted := Table.total_insert runtime key state (heldFor downstreamId)
  rw [heldFor_bucket] at erased
  rw [downstreamTotalAdmitted_eq_total, downstreamTotalAdmitted_eq_total]
  omega

theorem total_of_insert_le {state : DownstreamLeaseState}
    (lighter : state.held ≤ (runtime.bucket key).held) :
    downstreamTotalAdmitted (runtime.insert key state) downstreamId ≤
      downstreamTotalAdmitted runtime downstreamId := by
  have moved := @total_of_insert runtime key downstreamId state
  have less : heldFor downstreamId key state ≤ heldFor downstreamId key (runtime.bucket key) := by
    rw [heldFor, heldFor]
    split <;> omega
  omega

theorem total_of_erase_le :
    downstreamTotalAdmitted (runtime.erase key) downstreamId ≤
      downstreamTotalAdmitted runtime downstreamId := by
  have erased := Table.total_erase runtime key (heldFor downstreamId)
  rw [downstreamTotalAdmitted_eq_total, downstreamTotalAdmitted_eq_total]
  omega

end DownstreamRuntime

end ChatGateway
