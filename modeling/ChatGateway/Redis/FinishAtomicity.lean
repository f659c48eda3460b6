import ChatGateway.Redis.HealthScripts

set_option autoImplicit false

/-!
# What a failed finish leaves behind

`route_health_finish.lua` replies `-1` when a failure finds no room for its state. By then it has
given back the lease of the other side and tidied the indexes of the failing one.
-/

namespace ChatGateway

structure FinishFailure where
  record : FailureRecord
  failing : StateSlot
  other : StateSlot
  otherGeneration : Option Nat

def FinishArgs.failure (args : FinishArgs) (keys : HealthKeys) : Option FinishFailure :=
  match args.outcome with
  | .routeFailure failureClass =>
    some ⟨args.routeRecord failureClass, keys.route, keys.key, args.keyGeneration⟩
  | .keyFailure failureClass =>
    some ⟨args.keyRecord failureClass, keys.key, keys.route, args.routeGeneration⟩
  | .uncertainRouteFailure failureClass =>
    some ⟨args.uncertainRecord failureClass, keys.route, keys.key, args.keyGeneration⟩
  | .success | .cancelled => none

namespace HealthStore

def settleOther (store : HealthStore) (now ttlSeconds : Int) (failure : FinishFailure) :
    HealthStore :=
  if store.reconciling failure.other.stateKey then store.clearSlot failure.other
  else store.releaseHalfOpen now ttlSeconds failure.other failure.otherGeneration

def rearms (store : HealthStore) (now : Int) (args : FinishArgs) (keys : HealthKeys) : Bool :=
  match args.outcome with
  | .uncertainRouteFailure _ => (store.reapplyConcurrencyProbe now args keys.route).isSome
  | _ => false

def Dangling (store : HealthStore) (index : String) : Prop :=
  ∃ member, ((store.indexes index).zscore member).isSome ∧ store.states member = none

end HealthStore

section Finish

variable (now : Int) (args : FinishArgs) (keys : HealthKeys) (markerKey : String)
  (store : HealthStore)

structure FinishLacksRoom (failure : FinishFailure) : Prop where
  unmarked : (store.live now).markers markerKey = none
  keyOwned : (store.live now).owns keys.key.stateKey args.leaseId args.keyGeneration
  routeOwned : (store.live now).owns keys.route.stateKey args.leaseId args.routeGeneration
  found : args.failure keys = some failure
  current : ¬ (store.live now).reconciling failure.failing.stateKey
  notRearmed : ¬ ((store.live now).settleOther now args.ttlSeconds failure).rearms now args keys
  recorded : failure.record.schedule.isEmpty → failure.record.observationOnly
  full : (((store.live now).settleOther now args.ttlSeconds failure).ensureCapacity
    failure.record failure.failing HealthStore.evictOne).1 = false

/-- Nothing is undone before the failure turns out to have no room: no lease of the other side is
held or being reconciled, and neither index of the failing side can be tidied. -/
structure FinishNothingToUndo (failure : FinishFailure) : Prop where
  noLease : failure.otherGeneration = none
  notReconciling : ¬ (store.live now).reconciling failure.other.stateKey
  noDangling : ¬ (store.live now).Dangling failure.failing.upstreamIndex ∧
    ¬ (store.live now).Dangling failure.failing.globalIndex
  noEviction : ((store.live now).indexes failure.failing.upstreamIndex).zcard ≥
    failure.record.upstreamCapacity →
      (store.live now).evictable failure.failing.upstreamIndex = none

structure FinishUnchanged (after : HealthStore) : Prop where
  key : after.states keys.key.stateKey = (store.live now).states keys.key.stateKey
  route : after.states keys.route.stateKey = (store.live now).states keys.route.stateKey
  indexes : ∀ slot ∈ [keys.key, keys.route], ∀ index ∈ [slot.upstreamIndex, slot.globalIndex],
    after.indexes index = (store.live now).indexes index
  marker : after.markers markerKey = (store.live now).markers markerKey

structure FinishOnlyMarks (after : HealthStore) : Prop where
  states : after.states = (store.live now).states
  indexes : after.indexes = (store.live now).indexes
  generation : after.generation = store.generation
  markers : ∀ other, other ≠ markerKey → after.markers other = (store.live now).markers other

structure FinishAllOrNothing : Prop where
  noRoom : (routeHealthFinish now args keys markerKey store).1 = .ok (-1) →
    FinishUnchanged now keys markerKey store (routeHealthFinish now args keys markerKey store).2
  notOwned : (routeHealthFinish now args keys markerKey store).1 = .ok 0 →
    FinishOnlyMarks now markerKey store (routeHealthFinish now args keys markerKey store).2

end Finish

namespace HealthStore

variable {store after : HealthStore} {now : Int} {args : FinishArgs} {keys : HealthKeys}

-- A failure with no room leaves what `ensure_capacity` leaves.
theorem failSide_false {record : FailureRecord} {slot : StateSlot} {probe repeated : Bool} :
    store.failSide now record slot probe repeated = (false, after) ↔
      (record.schedule.isEmpty → record.observationOnly) ∧
        store.ensureCapacity record slot evictOne = (false, after) := by
  unfold failSide observe
  by_cases empty : record.schedule.isEmpty ∧ !record.observationOnly
  · rw [if_pos empty]
    simp_all
  · rw [if_neg empty]
    rcases room : store.ensureCapacity record slot evictOne with ⟨_ | _, left⟩
    · simp_all
    · simp

theorem rearmOrFail_false {record : FailureRecord} {slot : StateSlot} {probe repeated : Bool} :
    ((store.reapplyConcurrencyProbe now args slot).elim
        (store.failSide now record slot probe repeated) fun rearmed => (true, rearmed)) =
          (false, after) ↔
      store.reapplyConcurrencyProbe now args slot = none ∧
        (record.schedule.isEmpty → record.observationOnly) ∧
        store.ensureCapacity record slot evictOne = (false, after) := by
  cases store.reapplyConcurrencyProbe now args slot with
  | none => simp [failSide_false]
  | some rearmed => simp

theorem finishOwned_false :
    store.finishOwned now args keys = (false, after) ↔
      ∃ failure, args.failure keys = some failure ∧
        ¬ store.reconciling failure.failing.stateKey ∧
        ¬ (store.settleOther now args.ttlSeconds failure).rearms now args keys ∧
        (failure.record.schedule.isEmpty → failure.record.observationOnly) ∧
        (store.settleOther now args.ttlSeconds failure).ensureCapacity failure.record
          failure.failing evictOne = (false, after) := by
  cases outcome : args.outcome with
  | success | cancelled => simp [finishOwned, settle, FinishArgs.failure, outcome]
  | routeFailure | keyFailure | uncertainRouteFailure =>
    cases route : store.reconciling keys.route.stateKey <;>
      cases key : store.reconciling keys.key.stateKey <;>
      simp [finishOwned, settle, FinishArgs.failure, rearms, settleOther, outcome, route, key,
        failSide_false, rearmOrFail_false]

structure Tidied (before after : HealthStore) : Prop where
  states : ∀ key, after.states key = before.states key ∨ after.states key = none
  members : ∀ index member score, (after.indexes index).zscore member = some score →
    (before.indexes index).zscore member = some score
  markers : after.markers = before.markers

theorem Tidied.trans {first second third : HealthStore} (early : Tidied first second)
    (late : Tidied second third) : Tidied first third where
  states key := by
    rcases late.states key with kept | gone
    · rw [kept]
      exact early.states key
    · exact Or.inr gone
  members index member score present :=
    early.members index member score (late.members index member score present)
  markers := late.markers.trans early.markers

theorem Tidied.missing {before after : HealthStore} (tidied : Tidied before after)
    {index member : String} (gone : (before.indexes index).zscore member = none) :
    (after.indexes index).zscore member = none := by
  by_contra kept
  obtain ⟨score, present⟩ := Option.ne_none_iff_exists'.mp kept
  exact absurd (gone.symm.trans (tidied.members index member score present)) (by simp)

theorem Tidied.putIndex (store : HealthStore) (index : String) (set : ZSet)
    (smaller : ∀ member score, set.zscore member = some score →
      (store.indexes index).zscore member = some score) : Tidied store (store.putIndex index set) where
  states _ := Or.inl rfl
  members other member score present := by
    by_cases same : other = index
    · subst same
      exact smaller member score (by simpa [HealthStore.putIndex] using present)
    · simpa [HealthStore.putIndex, same] using present
  markers := rfl

theorem Tidied.zrem (store : HealthStore) (index member : String) :
    Tidied store (store.zrem index member) := by
  refine .putIndex store index _ fun other score present => ?_
  rw [Volatile.zscore_zrem] at present
  split at present
  · exact absurd present (by simp)
  · exact present

theorem Tidied.del (store : HealthStore) (key : String) : Tidied store (store.del key) where
  states other := by
    by_cases same : other = key
    · exact Or.inr (by simp [HealthStore.del, putState, same])
    · exact Or.inl (by simp [HealthStore.del, putState, same])
  members _ _ _ present := present
  markers := rfl

theorem zscore_pruneIndex (store : HealthStore) (index member : String) :
    ((store.pruneIndex index).indexes index).zscore member =
      ((store.indexes index).zscore member).filter fun _ => (store.states member).isSome := by
  simp [pruneIndex, putIndex, Volatile.zscore]

theorem Tidied.pruneIndex (store : HealthStore) (index : String) :
    Tidied store (store.pruneIndex index) := by
  refine .putIndex store index _ fun member score present => ?_
  have kept : (((store.pruneIndex index).indexes index).zscore member) = some score := by
    simpa [HealthStore.pruneIndex, HealthStore.putIndex] using present
  rw [zscore_pruneIndex, Option.filter_eq_some_iff] at kept
  exact kept.1

theorem Tidied.evict {index other : String} (evicted : store.evictOne index other = some after) :
    Tidied store after := by
  obtain ⟨member, -, rfl⟩ := Option.map_eq_some_iff.mp evicted
  have cleared : Tidied store (((store.del member).zrem index member).zrem other member) :=
    ((Tidied.del store member).trans (.zrem _ _ _)).trans (.zrem _ _ _)
  dsimp only
  split
  · exact cleared.trans (.zrem _ _ _)
  · exact cleared

theorem Tidied.pruneSlot (store : HealthStore) (slot : StateSlot) :
    Tidied store (store.pruneSlot slot) :=
  (Tidied.pruneIndex store slot.upstreamIndex).trans (.pruneIndex _ _)

theorem pruneIndex_of_clean {index : String} (clean : ¬ store.Dangling index) :
    store.pruneIndex index = store := by
  have unchanged : (store.indexes index).update
      (fun members => members.retain fun member _ => (store.states member).isSome) =
        store.indexes index := by
    refine Volatile.update_of_unchanged _ (AList.ext ?_)
    refine List.filter_eq_self.mpr fun entry held => ?_
    by_contra gone
    refine clean ⟨entry.1, ?_, Option.not_isSome_iff_eq_none.mp gone⟩
    exact Option.isSome_iff_exists.mpr ⟨entry.2, AList.mem_lookup_iff.mpr held⟩
  rw [pruneIndex, unchanged, putIndex, Function.update_eq_self]

theorem pruneSlot_of_clean {slot : StateSlot} (upstream : ¬ store.Dangling slot.upstreamIndex)
    (global : ¬ store.Dangling slot.globalIndex) : store.pruneSlot slot = store := by
  rw [pruneSlot, pruneIndex_of_clean upstream, pruneIndex_of_clean global]

theorem zscore_pruneSlot_dangling {slot : StateSlot} {index member : String}
    (pruned : index = slot.upstreamIndex ∨ index = slot.globalIndex)
    (gone : store.states member = none) :
    ((store.pruneSlot slot).indexes index).zscore member = none := by
  have afterOne : ∀ (store : HealthStore), store.states member = none → ∀ index,
      ((store.pruneIndex index).indexes index).zscore member = none := by
    intro store gone index
    simp [zscore_pruneIndex, gone]
  rcases pruned with rfl | rfl
  · exact (Tidied.pruneIndex _ slot.globalIndex).missing (afterOne store gone slot.upstreamIndex)
  · exact afterOne (store.pruneIndex slot.upstreamIndex) gone slot.globalIndex

-- A full upstream index loses its first member that no probe is using, before the global index
-- is looked at.
theorem ensureCapacity_false {record : FailureRecord} {slot : StateSlot}
    (failed : store.ensureCapacity record slot evictOne = (false, after)) :
    let pruned := store.pruneSlot slot
    let upstreamFull := (pruned.indexes slot.upstreamIndex).zcard ≥ record.upstreamCapacity
    store.states slot.stateKey = none ∧
      ((after = pruned ∧ (upstreamFull → pruned.evictable slot.upstreamIndex = none)) ∨
        (upstreamFull ∧ pruned.evictOne slot.upstreamIndex slot.globalIndex = some after)) := by
  intro pruned upstreamFull
  simp only [ensureCapacity] at failed
  split at failed
  next => cases failed
  next missing =>
    refine ⟨Option.not_isSome_iff_eq_none.mp missing, ?_⟩
    by_cases full : upstreamFull
    · split at failed
      next stuck =>
        cases failed
        refine Or.inl ⟨rfl, fun _ => ?_⟩
        rw [makeRoom, if_pos full] at stuck
        simpa [evictOne] using stuck
      next evicted =>
        rw [makeRoom, if_pos full] at evicted
        split at failed
        next =>
          cases failed
          exact Or.inr ⟨full, evicted⟩
        next => cases failed
    · refine Or.inl ⟨?_, fun claimed => absurd claimed full⟩
      rw [makeRoom, if_neg full] at failed
      dsimp only at failed
      split at failed
      next =>
        cases failed
        rfl
      next => cases failed

theorem ensureCapacity_false_tidied {record : FailureRecord} {slot : StateSlot}
    (failed : store.ensureCapacity record slot evictOne = (false, after)) : Tidied store after := by
  obtain ⟨-, ⟨rfl, -⟩ | ⟨-, evicted⟩⟩ := ensureCapacity_false failed
  · exact .pruneSlot store slot
  · exact (Tidied.pruneSlot store slot).trans (.evict evicted)

theorem evictOne_removes {index other : String} (evicted : store.evictOne index other = some after) :
    ∃ member, ((store.indexes index).zscore member).isSome ∧
      (after.indexes index).zscore member = none := by
  obtain ⟨member, found, rfl⟩ := Option.map_eq_some_iff.mp evicted
  refine ⟨member, ?_, ?_⟩
  · obtain ⟨⟨listed, score⟩, held, rfl⟩ := List.mem_map.mp (List.mem_of_find?_eq_some found)
    exact Option.isSome_iff_exists.mpr ⟨score, Volatile.mem_zordered.mp held⟩
  · have removed : (((store.del member).zrem index member).indexes index).zscore member = none := by
      simp [HealthStore.zrem, HealthStore.putIndex, Volatile.zscore_zrem]
    have cleared := (Tidied.zrem _ other member).missing removed
    dsimp only
    split
    · exact (Tidied.zrem _ _ member).missing cleared
    · exact cleared

end HealthStore

section Finish

variable {now : Int} {args : FinishArgs} {keys : HealthKeys} {markerKey : String}
  {store after : HealthStore} {failure : FinishFailure}

-- The script replies `-1` exactly when the failure lacks room.
theorem finish_noRoom_iff :
    routeHealthFinish now args keys markerKey store = (.ok (-1), after) ↔
      ∃ failure, FinishLacksRoom now args keys markerKey store failure ∧
        after = (((store.live now).settleOther now args.ttlSeconds failure).ensureCapacity
          failure.record failure.failing HealthStore.evictOne).2 := by
  constructor
  · intro ran
    simp only [routeHealthFinish] at ran
    split at ran
    next => split_ifs at ran <;> simp at ran
    next unmarked =>
      split at ran
      next => simp at ran
      next owned =>
        simp only [Bool.or_eq_true, Bool.not_eq_true', not_or, Bool.not_eq_false] at owned
        split at ran
        next => simp at ran
        next failed =>
          have stuck : (store.live now).finishOwned now args keys = (false, after) :=
            Prod.ext (by simpa using failed) (Prod.mk.inj ran).2
          obtain ⟨failure, found, failing, rearms, recorded, full⟩ :=
            HealthStore.finishOwned_false.mp stuck
          exact ⟨failure, ⟨unmarked, owned.1, owned.2, found, failing, rearms, recorded,
            congrArg Prod.fst full⟩, (congrArg Prod.snd full).symm⟩
  · rintro ⟨failure, ⟨unmarked, key, route, found, failing, rearms, recorded, full⟩, rfl⟩
    have stuck := HealthStore.finishOwned_false.mpr
      ⟨failure, found, failing, rearms, recorded, Prod.ext full rfl⟩
    simp [routeHealthFinish, unmarked, key, route, stuck]

theorem finish_notOwned
    (zero : (routeHealthFinish now args keys markerKey store).1 = .ok 0) :
    FinishOnlyMarks now markerKey store (routeHealthFinish now args keys markerKey store).2 := by
  have untouched : FinishOnlyMarks now markerKey store (store.live now) :=
    ⟨rfl, rfl, rfl, fun _ _ => rfl⟩
  have marked (result : String) : FinishOnlyMarks now markerKey store
      ((store.live now).commitResult now args.ttlSeconds markerKey result) :=
    ⟨rfl, rfl, rfl, fun other different => Function.update_of_ne different _ _⟩
  simp only [routeHealthFinish] at zero ⊢
  split
  next => split_ifs <;> exact untouched
  next unmarked =>
    split
    next => exact marked "0"
    next owned =>
      simp only [unmarked] at zero
      rw [if_neg owned] at zero
      split at zero <;> simp at zero

theorem FinishLacksRoom.owned (lacks : FinishLacksRoom now args keys markerKey store failure) :
    (store.live now).owns failure.other.stateKey args.leaseId failure.otherGeneration := by
  have found := lacks.found
  unfold FinishArgs.failure at found
  split at found <;> cases found
  · exact lacks.keyOwned
  · exact lacks.routeOwned
  · exact lacks.keyOwned

theorem FinishLacksRoom.sides (lacks : FinishLacksRoom now args keys markerKey store failure) :
    (failure.failing = keys.key ∧ failure.other = keys.route) ∨
      (failure.failing = keys.route ∧ failure.other = keys.key) := by
  have found := lacks.found
  unfold FinishArgs.failure at found
  split at found <;> cases found <;> simp

-- Clearing a side that is being reconciled, or giving back its lease, changes its hash.
theorem settleOther_changes (now : Int) {store : HealthStore}
    (owned : store.owns failure.other.stateKey args.leaseId failure.otherGeneration)
    (touched : failure.otherGeneration ≠ none ∨ store.reconciling failure.other.stateKey) :
    store.states failure.other.stateKey ≠ none ∧
      (store.settleOther now args.ttlSeconds failure).states failure.other.stateKey ≠
        store.states failure.other.stateKey := by
  unfold HealthStore.settleOther
  split
  next reconciling =>
    obtain ⟨hash, found, -⟩ := (Option.any_eq_true _ _).mp reconciling
    simp [found, HealthStore.clearSlot, HealthStore.clearState]
  next settled =>
    cases generation : failure.otherGeneration with
    | none => simp_all
    | some held =>
      rw [generation, HealthStore.owns, Option.any_eq_true] at owned
      obtain ⟨hash, found, matches'⟩ := owned
      have leased : hash.halfOpenLease = some args.leaseId := by simp_all
      refine ⟨by simp [found], fun same => ?_⟩
      have lease := congrArg (Option.bind · HealthHash.halfOpenLease) same
      by_cases expired : args.ttlSeconds ≤ 0 <;>
        simp [HealthStore.releaseHalfOpen, HealthStore.refreshSlot, HealthStore.expireState, expired,
          HealthHash.clearLease, found, leased] at lease

theorem settleOther_untouched {store : HealthStore} {ttlSeconds : Int}
    (noLease : failure.otherGeneration = none)
    (notReconciling : ¬ store.reconciling failure.other.stateKey) :
    store.settleOther now ttlSeconds failure = store := by
  rw [HealthStore.settleOther, if_neg notReconciling, noLease]
  rfl

theorem FinishUnchanged.other (lacks : FinishLacksRoom now args keys markerKey store failure)
    (unchanged : FinishUnchanged now keys markerKey store after)
    (room : ((store.live now).settleOther now args.ttlSeconds failure).ensureCapacity
      failure.record failure.failing HealthStore.evictOne = (false, after)) :
    failure.otherGeneration = none ∧
      ¬ (store.live now).reconciling failure.other.stateKey := by
  have kept : after.states failure.other.stateKey =
      (store.live now).states failure.other.stateKey := by
    rcases lacks.sides with ⟨-, other⟩ | ⟨-, other⟩
    · rw [other]
      exact unchanged.route
    · rw [other]
      exact unchanged.key
  by_contra touched
  obtain ⟨present, changed⟩ := settleOther_changes now lacks.owned (by tauto)
  rcases (HealthStore.ensureCapacity_false_tidied room).states failure.other.stateKey with
    same | gone
  · exact changed (same.symm.trans kept)
  · exact present (kept.symm.trans gone)

theorem FinishUnchanged.failingIndex
    (lacks : FinishLacksRoom now args keys markerKey store failure)
    (unchanged : FinishUnchanged now keys markerKey store after) {index : String}
    (listed : index ∈ [failure.failing.upstreamIndex, failure.failing.globalIndex]) :
    after.indexes index = (store.live now).indexes index := by
  refine unchanged.indexes failure.failing ?_ index listed
  rcases lacks.sides with ⟨failing, -⟩ | ⟨failing, -⟩ <;> simp [failing]

theorem noEviction_of_unchanged {store : HealthStore}
    (room : store.ensureCapacity failure.record failure.failing HealthStore.evictOne =
      (false, after))
    (kept : ∀ index ∈ [failure.failing.upstreamIndex, failure.failing.globalIndex],
      after.indexes index = store.indexes index) :
    (¬ store.Dangling failure.failing.upstreamIndex ∧
        ¬ store.Dangling failure.failing.globalIndex) ∧
      ((store.indexes failure.failing.upstreamIndex).zcard ≥ failure.record.upstreamCapacity →
        store.evictable failure.failing.upstreamIndex = none) := by
  obtain ⟨-, left⟩ := HealthStore.ensureCapacity_false room
  have tidied : HealthStore.Tidied (store.pruneSlot failure.failing) after := by
    rcases left with ⟨rfl, -⟩ | ⟨-, evicted⟩
    · exact ⟨fun _ => Or.inl rfl, fun _ _ _ present => present, rfl⟩
    · exact .evict evicted
  have clean : ∀ index ∈ [failure.failing.upstreamIndex, failure.failing.globalIndex],
      ¬ store.Dangling index := by
    rintro index listed ⟨member, held, gone⟩
    have removed := tidied.missing (HealthStore.zscore_pruneSlot_dangling (by simpa using listed) gone)
    rw [kept index listed] at removed
    simp [removed] at held
  have upstream := clean failure.failing.upstreamIndex (by simp)
  have global := clean failure.failing.globalIndex (by simp)
  refine ⟨⟨upstream, global⟩, fun full => ?_⟩
  rw [HealthStore.pruneSlot_of_clean upstream global] at left
  rcases left with ⟨-, nobody⟩ | ⟨-, evicted⟩
  · exact nobody full
  · obtain ⟨member, held, removed⟩ := HealthStore.evictOne_removes evicted
    rw [kept _ (by simp)] at removed
    simp [removed] at held

theorem finish_unchanged_iff (lacks : FinishLacksRoom now args keys markerKey store failure)
    (room : ((store.live now).settleOther now args.ttlSeconds failure).ensureCapacity
      failure.record failure.failing HealthStore.evictOne = (false, after)) :
    FinishUnchanged now keys markerKey store after ↔ FinishNothingToUndo now store failure := by
  constructor
  · intro unchanged
    obtain ⟨noLease, notReconciling⟩ := unchanged.other lacks room
    rw [settleOther_untouched noLease notReconciling] at room
    obtain ⟨noDangling, noEviction⟩ :=
      noEviction_of_unchanged room fun _ listed => unchanged.failingIndex lacks listed
    exact ⟨noLease, notReconciling, noDangling, noEviction⟩
  · rintro ⟨noLease, notReconciling, ⟨upstream, global⟩, noEviction⟩
    rw [settleOther_untouched noLease notReconciling] at room
    obtain ⟨-, left⟩ := HealthStore.ensureCapacity_false room
    rw [HealthStore.pruneSlot_of_clean upstream global] at left
    rcases left with ⟨rfl, -⟩ | ⟨full, evicted⟩
    · exact ⟨rfl, rfl, fun _ _ _ _ => rfl, rfl⟩
    · simp [HealthStore.evictOne, noEviction full] at evicted

/-- The script is all-or-nothing exactly when a failure without room has nothing to undo. -/
theorem finish_all_or_nothing_iff (now : Int) (args : FinishArgs) (keys : HealthKeys)
    (markerKey : String) (store : HealthStore) :
    FinishAllOrNothing now args keys markerKey store ↔
      ∀ failure, FinishLacksRoom now args keys markerKey store failure →
        FinishNothingToUndo now store failure := by
  constructor
  · intro whole failure lacks
    have ran := finish_noRoom_iff.mpr ⟨failure, lacks, rfl⟩
    have unchanged := whole.noRoom (congrArg Prod.fst ran)
    rw [congrArg Prod.snd ran] at unchanged
    exact (finish_unchanged_iff lacks (Prod.ext lacks.full rfl)).mp unchanged
  · intro nothing
    refine ⟨fun stuck => ?_, finish_notOwned⟩
    have ran : routeHealthFinish now args keys markerKey store =
        (.ok (-1), (routeHealthFinish now args keys markerKey store).2) := Prod.ext stuck rfl
    obtain ⟨failure, lacks, left⟩ := finish_noRoom_iff.mp ran
    rw [left]
    exact (finish_unchanged_iff lacks (Prod.ext lacks.full rfl)).mpr (nothing failure lacks)

end Finish

section Examples

def exampleSlot (kind name : String) : StateSlot where
  stateKey := kind ++ ":" ++ name
  upstreamIndex := "upstream:index:" ++ kind
  globalIndex := "index:" ++ kind

def exampleHealthKeys (name : String) : HealthKeys where
  key := exampleSlot "key" name
  route := exampleSlot "route" name

def exampleFailure (failureClass : RouteFailureClass) : FailureRecord where
  failureClass := failureClass
  schedule := [5000]
  explicitRetryMs := -1
  exactRetry := false
  failureStatus := ""
  observationOnly := false
  upstreamId := "upstream"
  keyFingerprint := "fingerprint"
  modelSlug := "model"
  protocol := "responses"
  streakResetMs := 600000
  ttlSeconds := 7200
  globalCapacity := 1
  upstreamCapacity := 1
  maxStep := 2

def exampleReserve (leaseId : String) : ReserveArgs where
  leaseId := leaseId
  ttlSeconds := 7200
  leaseDurationMs := 300000
  legacyThresholdMs := 3000
  exclusiveWindowMs := 3000
  enforcementEnabled := true

def exampleFinish (leaseId : String) (keyGeneration : Option Nat) (outcome : FinishOutcome) :
    FinishArgs where
  leaseId := leaseId
  keyGeneration := keyGeneration
  routeGeneration := none
  routeStateGeneration := none
  outcome := outcome
  explicitRetryMs := -1
  streakResetMs := 600000
  ttlSeconds := 7200
  globalCapacity := 1
  upstreamCapacity := 1
  upstreamId := "upstream"
  keyFingerprint := "fingerprint"
  modelSlug := "model"
  protocol := "responses"
  failureStatus := ""
  repeatWithinRequest := false
  routeSchedule := [5000]
  keySchedule := []
  probeSchedule := [100]
  maxStep := 2
  routeObservationOnly := false
  keyObservationOnly := false

def probedStore : HealthStore :=
  let store := (routeHealthObserve 1000 (exampleFailure .transientServer) (exampleSlot "route" "busy")
    .empty).2
  let store := (routeHealthObserve 1000 (exampleFailure .credentials) (exampleSlot "key" "probed")
    store).2
  let store := (routeHealthReserve 10000 (exampleReserve "lease-1") (exampleHealthKeys "busy")
    store).2
  (routeHealthReserve 10000 (exampleReserve "lease-2") (exampleHealthKeys "probed") store).2

theorem finish_without_room_drops_lease :
    let finished := routeHealthFinish 11000
      (exampleFinish "lease-2" (some 2) (.routeFailure .transientServer))
      (exampleHealthKeys "probed") "finish:lease-2" probedStore
    finished.1 = .ok (-1) ∧
      (probedStore.states "key:probed").bind HealthHash.activeLease = some "lease-2" ∧
      (finished.2.states "key:probed").bind HealthHash.activeLease = none ∧
      finished.2.states "route:probed" = none ∧
      (routeHealthFinish 11001
        (exampleFinish "lease-2" (some 2) (.routeFailure .transientServer))
        (exampleHealthKeys "probed") "finish:lease-2" finished.2).1 = .ok 0 ∧
      ¬ FinishAllOrNothing 11000
        (exampleFinish "lease-2" (some 2) (.routeFailure .transientServer))
        (exampleHealthKeys "probed") "finish:lease-2" probedStore := by
  intro finished
  have noRoom : finished.1 = .ok (-1) := by decide +kernel
  have before : (probedStore.states "key:probed").bind HealthHash.activeLease = some "lease-2" := by
    decide +kernel
  have after : (finished.2.states "key:probed").bind HealthHash.activeLease = none := by
    decide +kernel
  refine ⟨noRoom, before, after, by decide +kernel, by decide +kernel, fun whole => ?_⟩
  have kept := congrArg (Option.bind · HealthHash.activeLease) (whole.noRoom noRoom).key
  have held : ((probedStore.live 11000).states "key:probed").bind HealthHash.activeLease =
      some "lease-2" := by
    decide +kernel
  exact absurd (after.symm.trans (kept.trans held)) (by simp)

end Examples

end ChatGateway
