import ChatGateway.RouteHealth.Settled
import ChatGateway.Shared.BoundedTable

set_option autoImplicit false

/-!
# The size of the registry

How room is made for a failure that is recorded on a new route or key, and how many entries there
can be after any run.
-/

namespace ChatGateway

section Room

variable {K : Type} [DecidableEq K]

def Evictable (table : Table K HealthState) (owner : K → String) (share : Nat) (now : Instant)
    (key other : K) (state : HealthState) : Prop :=
  table.lookup other = some state ∧ state.isActive now = false ∧
    (share ≤ table.held (owner · = owner key) → owner other = owner key)

def NoRoom (table : Table K HealthState) (owner : K → String) (capacity share : Nat)
    (now : Instant) (key : K) : Prop :=
  ¬table.HasRoom owner capacity share key ∧
    ∀ other state, ¬Evictable table owner share now key other state

/-- Room is there, or one entry that may go is dropped: one that is cooling only if all of these
are. -/
def RoomMade (table : Table K HealthState) (owner : K → String) (capacity share : Nat)
    (now : Instant) (key : K) (roomy : Table K HealthState) : Prop :=
  (table.HasRoom owner capacity share key ∧ roomy = table) ∨
    ∃ victim state, Evictable table owner share now key victim state ∧
      (state.isCooling now = true → ∀ other idle,
        Evictable table owner share now key other idle → idle.isCooling now = true) ∧
      roomy = table.erase victim

def RecordsInRoom (before after : Table K HealthState) (owner : K → String)
    (capacity share : Nat) (now : Instant) (key : K) : Prop :=
  ∃ roomy entry, RoomMade before owner capacity share now key roomy ∧
    after = roomy.insert key entry

variable {table roomy : Table K HealthState} {owner : K → String} {capacity share : Nat}
  {now : Instant} {key : K}

theorem RoomMade.hasRoom (made : RoomMade table owner capacity share now key roomy)
    (within : table.Within owner capacity share) : roomy.HasRoom owner capacity share key := by
  rcases made with ⟨room, rfl⟩ | ⟨victim, state, ⟨present, -, fits⟩, -, rfl⟩
  · exact room
  · refine within.hasRoom_erase present ?_
    by_cases full : share ≤ table.held (owner · = owner key)
    · exact .inl (fits full)
    · exact .inr (Nat.lt_of_not_le full)

theorem RoomMade.lighter (made : RoomMade table owner capacity share now key roomy) :
    table.Lighter roomy := by
  rcases made with ⟨-, rfl⟩ | ⟨victim, -, -, -, rfl⟩
  · exact fun _ => Nat.le_refl _
  · exact .erase _ _

theorem RecordsInRoom.within {after : Table K HealthState}
    (recorded : RecordsInRoom table after owner capacity share now key)
    (within : table.Within owner capacity share) : after.Within owner capacity share := by
  obtain ⟨roomy, entry, made, rfl⟩ := recorded
  exact (within.lighter made.lighter).insert (made.hasRoom within) entry

theorem RoomMade.not_noRoom (made : RoomMade table owner capacity share now key roomy) :
    ¬NoRoom table owner capacity share now key := by
  rintro ⟨crowded, none⟩
  rcases made with ⟨room, -⟩ | ⟨victim, state, evictable, -, -⟩
  · exact crowded room
  · exact none victim state evictable

end Room

section Candidates

variable {K : Type} [DecidableEq K] (table : Table K HealthState) (owner : K → String)
  (capacity share : Nat) (now : Instant) (key : K)

def evictableEntries : List (Σ _ : K, HealthState) :=
  table.entries.filter fun entry =>
    (!decide (share ≤ table.held (owner · = owner key)) || decide (owner entry.1 = owner key)) &&
      !entry.2.isActive now

variable {table owner capacity share now key}

theorem mem_evictableEntries {entry : Σ _ : K, HealthState} :
    entry ∈ evictableEntries table owner share now key ↔
      Evictable table owner share now key entry.1 entry.2 := by
  rw [evictableEntries, List.mem_filter, ← AList.mem_lookup_iff, Option.mem_def, Evictable]
  simp only [Bool.and_eq_true, Bool.or_eq_true, Bool.not_eq_true', decide_eq_false_iff_not,
    decide_eq_true_eq, and_congr_right_iff]
  intro _
  rw [and_comm, imp_iff_not_or]

theorem evictableEntries_eq_nil :
    evictableEntries table owner share now key = [] ↔
      ∀ other state, ¬Evictable table owner share now key other state := by
  rw [List.eq_nil_iff_forall_not_mem]
  constructor
  · intro none other state evictable
    exact none ⟨other, state⟩ (mem_evictableEntries.2 evictable)
  · intro none entry member
    exact none entry.1 entry.2 (mem_evictableEntries.1 member)

theorem not_hasRoom (absent : ¬(table.lookup key).isSome = true)
    (full : capacity ≤ table.entries.length ∨ share ≤ table.held (owner · = owner key)) :
    ¬table.HasRoom owner capacity share key := by
  rintro (present | ⟨short, small⟩)
  · exact absent present
  · omega

end Candidates

theorem Quieted.lighter {K : Type} [DecidableEq K] {before after : Table K HealthState}
    (settled : Quieted before after) : before.Lighter after := by
  refine .of_subset fun key known => ?_
  obtain ⟨entry, found⟩ := Option.isSome_iff_exists.1 (AList.lookup_isSome.2 known)
  obtain ⟨old, stored, -⟩ := settled key entry found
  exact AList.lookup_isSome.1 (Option.isSome_iff_exists.2 ⟨old, stored⟩)

namespace RouteHealthRegistry

structure Bounded (registry : RouteHealthRegistry) : Prop where
  routes : registry.routes.Within (·.upstreamId) registry.routeCapacity registry.perUpstreamCapacity
  keys : registry.keys.Within (·.upstreamId) registry.routeCapacity registry.perUpstreamCapacity

theorem ensureRouteCapacity_spec (registry : RouteHealthRegistry) (route : RouteHealthKey)
    (now : Instant) :
    (registry.ensureRouteCapacity route now = none ∧
      NoRoom registry.routes (·.upstreamId) registry.routeCapacity registry.perUpstreamCapacity now
        route) ∨
    ∃ roomy, registry.ensureRouteCapacity route now = some { registry with routes := roomy } ∧
      RoomMade registry.routes (·.upstreamId) registry.routeCapacity registry.perUpstreamCapacity
        now route roomy := by
  rw [ensureRouteCapacity]
  by_cases present : (registry.routes.lookup route).isSome = true
  · rw [if_pos present]
    exact .inr ⟨registry.routes, rfl, .inl ⟨.inl present, rfl⟩⟩
  rw [if_neg present]
  dsimp only
  rw [← Table.held_eq_length]
  by_cases full : registry.routeCapacity ≤ registry.routes.entries.length ∨
      registry.perUpstreamCapacity ≤ registry.routes.held (·.upstreamId = route.upstreamId)
  · rw [if_pos full]
    have crowded := not_hasRoom present full
    let eligible := evictableEntries registry.routes (·.upstreamId) registry.perUpstreamCapacity
      now route
    split
    next candidate chosen =>
      have chosen : ((eligible.filter fun entry => !entry.2.isCooling now).argmin
          (·.2.lastAccess)).or (eligible.argmin (·.2.lastAccess)) = some candidate :=
        Option.orElse_eq_or.symm.trans chosen
      refine .inr ⟨_, rfl, .inr ⟨candidate.1, candidate.2, ?_⟩⟩
      rcases Option.or_eq_some_iff.1 chosen with idle | ⟨busy, any⟩
      · -- one that is not cooling was there to go
        obtain ⟨member, warm⟩ := List.mem_filter.1 (List.argmin_mem idle)
        refine ⟨mem_evictableEntries.1 member, fun cooling => ?_, rfl⟩
        rw [cooling] at warm
        cases warm
      · refine ⟨mem_evictableEntries.1 (List.argmin_mem any), fun _ other idle evictable => ?_, rfl⟩
        have member : (⟨other, idle⟩ : Σ _ : RouteHealthKey, HealthState) ∈ eligible :=
          mem_evictableEntries.2 evictable
        have none := List.argmin_eq_none.1 busy
        simpa using List.filter_eq_nil_iff.1 none _ member
    next chosen =>
      have chosen : ((eligible.filter fun entry => !entry.2.isCooling now).argmin
          (·.2.lastAccess)).or (eligible.argmin (·.2.lastAccess)) = none :=
        Option.orElse_eq_or.symm.trans chosen
      have empty := List.argmin_eq_none.1 (Option.or_eq_none_iff.1 chosen).2
      exact .inl ⟨rfl, crowded, evictableEntries_eq_nil.1 empty⟩
  · rw [if_neg full]
    obtain ⟨short, small⟩ := not_or.1 full
    exact .inr ⟨registry.routes, rfl,
      .inl ⟨.inr ⟨Nat.lt_of_not_le short, Nat.lt_of_not_le small⟩, rfl⟩⟩

theorem ensureKeyCapacity_spec (registry : RouteHealthRegistry) (key : KeyHealthKey)
    (now : Instant) :
    (registry.ensureKeyCapacity key now = none ∧
      NoRoom registry.keys (·.upstreamId) registry.routeCapacity registry.perUpstreamCapacity now
        key) ∨
    ∃ roomy, registry.ensureKeyCapacity key now = some { registry with keys := roomy } ∧
      RoomMade registry.keys (·.upstreamId) registry.routeCapacity registry.perUpstreamCapacity
        now key roomy := by
  rw [ensureKeyCapacity]
  by_cases present : (registry.keys.lookup key).isSome = true
  · rw [if_pos present]
    exact .inr ⟨registry.keys, rfl, .inl ⟨.inl present, rfl⟩⟩
  rw [if_neg present]
  dsimp only
  rw [← Table.held_eq_length]
  by_cases full : registry.routeCapacity ≤ registry.keys.entries.length ∨
      registry.perUpstreamCapacity ≤ registry.keys.held (·.upstreamId = key.upstreamId)
  · rw [if_neg (by rwa [← not_or, not_not])]
    have crowded := not_hasRoom present full
    let eligible := evictableEntries registry.keys (·.upstreamId) registry.perUpstreamCapacity now
      key
    split
    next candidate chosen =>
      have chosen : (eligible.argmin fun entry =>
          toLex (entry.2.isCooling now, entry.2.lastAccess)) = some candidate := chosen
      refine .inr ⟨_, rfl, .inr ⟨candidate.1, candidate.2,
        mem_evictableEntries.1 (List.argmin_mem chosen), fun cooling other idle evictable => ?_,
        rfl⟩⟩
      have member : (⟨other, idle⟩ : Σ _ : KeyHealthKey, HealthState) ∈ eligible :=
        mem_evictableEntries.2 evictable
      have least := List.le_of_mem_argmin member chosen
      rw [Prod.Lex.toLex_le_toLex, cooling] at least
      -- the first component of the order is whether the entry is cooling
      cases warm : idle.isCooling now with
      | true => rfl
      | false =>
        rw [warm] at least
        exact absurd least (by simp)
    next chosen =>
      have empty : eligible = [] := List.argmin_eq_none.1 chosen
      exact .inl ⟨rfl, crowded, evictableEntries_eq_nil.1 empty⟩
  · rw [if_pos (not_or.1 full)]
    obtain ⟨short, small⟩ := not_or.1 full
    exact .inr ⟨registry.keys, rfl,
      .inl ⟨.inr ⟨Nat.lt_of_not_le short, Nat.lt_of_not_le small⟩, rfl⟩⟩

-- What recording a failure with a cooldown does to the routes, and nothing else is touched when
-- there is no room.
theorem observeRouteFailureAt_room (digest : List UInt8 → Nat) (registry : RouteHealthRegistry)
    (route : RouteHealthKey) (report : RouteFailureReport) (explicitRetry : Option Duration)
    (now : Instant) (cools : routeFailureHasCooldown report.failureClass = true) :
    (NoRoom registry.routes (·.upstreamId) registry.routeCapacity registry.perUpstreamCapacity now
        route ∧ registry.observeRouteFailureAt digest route report explicitRetry now = registry) ∨
      RecordsInRoom registry.routes
        (registry.observeRouteFailureAt digest route report explicitRetry now).routes
        (·.upstreamId) registry.routeCapacity registry.perUpstreamCapacity now route := by
  rw [observeRouteFailureAt, if_neg (by simp [cools]), observeCapacityRouteFailureAt]
  rcases registry.ensureRouteCapacity_spec route now with ⟨none, crowded⟩ | ⟨roomy, made, room⟩
  · rw [none]
    exact .inl ⟨crowded, ite_self _⟩
  · rw [made]
    refine .inr ?_
    split
    · exact ⟨roomy, _, room, rfl⟩
    · exact ⟨roomy, _, room, rfl⟩

theorem observeKeyFailureAt_room (digest : List UInt8 → Nat) (registry : RouteHealthRegistry)
    (key : KeyHealthKey) (failureClass : RouteFailureClass) (explicitRetry : Option Duration)
    (now : Instant) (cools : keyFailureHasCooldown failureClass = true) :
    (NoRoom registry.keys (·.upstreamId) registry.routeCapacity registry.perUpstreamCapacity now
        key ∧ registry.observeKeyFailureAt digest key failureClass explicitRetry now = registry) ∨
      RecordsInRoom registry.keys
        (registry.observeKeyFailureAt digest key failureClass explicitRetry now).keys
        (·.upstreamId) registry.routeCapacity registry.perUpstreamCapacity now key := by
  rw [observeKeyFailureAt, if_neg (by simp [cools]), observeCapacityKeyFailureAt]
  rcases registry.ensureKeyCapacity_spec key now with ⟨none, crowded⟩ | ⟨roomy, made, room⟩
  · rw [none]
    exact .inl ⟨crowded, ite_self _⟩
  · rw [made]
    refine .inr ?_
    split
    · exact ⟨roomy, _, room, rfl⟩
    · exact ⟨roomy, _, room, rfl⟩

theorem Bounded.quieter {before after : RouteHealthRegistry} (bounded : before.Bounded)
    (quieter : Quieter before after) : after.Bounded where
  routes := by
    rw [quieter.routeCapacity, quieter.perUpstreamCapacity]
    exact bounded.routes.lighter quieter.routes.lighter
  keys := by
    rw [quieter.routeCapacity, quieter.perUpstreamCapacity]
    exact bounded.keys.lighter quieter.keys.lighter

theorem Bounded.records {digest : List UInt8 → Nat} {before after : RouteHealthRegistry}
    {now : Instant} {reported : Option ReportedFailure} (bounded : before.Bounded)
    (records : Records now digest reported before after) :
    after.Bounded := by
  cases records with
  | nothing => exact bounded
  | route route report explicitRetry source cools =>
    rcases before.observeRouteFailureAt_room digest route report explicitRetry now cools with
      ⟨-, same⟩ | recorded
    · rw [same]
      exact bounded
    · obtain ⟨routes, skipped, frame⟩ :=
        before.observeRouteFailureAt_frame now digest route report explicitRetry
      rw [frame] at recorded ⊢
      exact ⟨recorded.within bounded.routes, bounded.keys⟩
  | key key failureClass explicitRetry cools =>
    rcases before.observeKeyFailureAt_room digest key failureClass explicitRetry now cools with
      ⟨-, same⟩ | recorded
    · rw [same]
      exact bounded
    · obtain ⟨keys, skipped, frame⟩ :=
        before.observeKeyFailureAt_frame now digest key failureClass explicitRetry
      rw [frame] at recorded ⊢
      exact ⟨bounded.routes, recorded.within bounded.keys⟩

end RouteHealthRegistry

theorem HealthSystem.Reachable.bounded {digest : List UInt8 → Nat} {system : HealthSystem}
    (reachable : system.Reachable digest) : system.registry.Bounded := by
  refine reachable.invariant (fun system => system.registry.Bounded) ?_ ?_
  · rintro first ⟨routeCapacity, perUpstreamCapacity, settings, now, rfl⟩
    exact ⟨⟨Nat.zero_le _, fun _ => Nat.zero_le _⟩, ⟨Nat.zero_le _, fun _ => Nat.zero_le _⟩⟩
  · intro before label after step bounded
    cases step with
    | operate operation now =>
      obtain ⟨middle, quieter, records⟩ := before.registry.apply_records now digest operation
      exact (bounded.quieter quieter).records records
    | reorder routes keys sameRoutes sameKeys =>
      exact bounded.quieter ⟨.reordered sameRoutes, .reordered sameKeys, rfl, rfl⟩

/-- A route failure with a cooldown is dropped when there is no room, and recorded in the room that
is made otherwise. -/
def RouteHealthRegistry.RouteRecordingsFit (digest : List UInt8 → Nat)
    (registry : RouteHealthRegistry) : Prop :=
  ∀ route report explicitRetry now, routeFailureHasCooldown report.failureClass = true →
    let after := registry.observeRouteFailureAt digest route report explicitRetry now
    let crowded := NoRoom registry.routes (·.upstreamId) registry.routeCapacity
      registry.perUpstreamCapacity now route
    (crowded → after = registry) ∧
      (¬crowded → after.keys = registry.keys ∧
        RecordsInRoom registry.routes after.routes (·.upstreamId) registry.routeCapacity
          registry.perUpstreamCapacity now route)

def RouteHealthRegistry.KeyRecordingsFit (digest : List UInt8 → Nat)
    (registry : RouteHealthRegistry) : Prop :=
  ∀ key failureClass explicitRetry now, keyFailureHasCooldown failureClass = true →
    let after := registry.observeKeyFailureAt digest key failureClass explicitRetry now
    let crowded := NoRoom registry.keys (·.upstreamId) registry.routeCapacity
      registry.perUpstreamCapacity now key
    (crowded → after = registry) ∧
      (¬crowded → after.routes = registry.routes ∧
        RecordsInRoom registry.keys after.keys (·.upstreamId) registry.routeCapacity
          registry.perUpstreamCapacity now key)

/-- In every state a run reaches both maps are within their bounds, and room is made for a failure
as it should be. -/
theorem registry_stays_bounded (digest : List UInt8 → Nat) (system : HealthSystem)
    (reachable : system.Reachable digest) :
    system.registry.routes.entries.length ≤ system.registry.routeCapacity ∧
      system.registry.keys.entries.length ≤ system.registry.routeCapacity ∧
      (∀ upstreamId,
        (system.registry.routes.keys.filter (·.upstreamId = upstreamId)).length ≤
            system.registry.perUpstreamCapacity ∧
          (system.registry.keys.keys.filter (·.upstreamId = upstreamId)).length ≤
            system.registry.perUpstreamCapacity) ∧
      system.registry.RouteRecordingsFit digest ∧ system.registry.KeyRecordingsFit digest := by
  have bounded := reachable.bounded
  refine ⟨bounded.routes.whole, bounded.keys.whole, fun upstreamId => ⟨?_, ?_⟩, ?_, ?_⟩
  · rw [← Table.held_eq_length]
    exact bounded.routes.shares upstreamId
  · rw [← Table.held_eq_length]
    exact bounded.keys.shares upstreamId
  · intro route report explicitRetry now cools
    rcases system.registry.observeRouteFailureAt_room digest route report explicitRetry now cools
      with ⟨crowded, same⟩ | recorded
    · exact ⟨fun _ => same, fun roomy => absurd crowded roomy⟩
    · refine ⟨fun crowded => ?_, fun _ =>
        ⟨system.registry.observeRouteFailureAt_keys now digest route report explicitRetry, recorded⟩⟩
      obtain ⟨_, _, made, _⟩ := recorded
      exact absurd crowded made.not_noRoom
  · intro key failureClass explicitRetry now cools
    rcases system.registry.observeKeyFailureAt_room digest key failureClass explicitRetry now cools
      with ⟨crowded, same⟩ | recorded
    · exact ⟨fun _ => same, fun roomy => absurd crowded roomy⟩
    · refine ⟨fun crowded => ?_, fun _ =>
        ⟨system.registry.observeKeyFailureAt_routes now digest key failureClass explicitRetry,
          recorded⟩⟩
      obtain ⟨_, _, made, _⟩ := recorded
      exact absurd crowded made.not_noRoom

theorem registry_stays_bounded_after_failure :
    cooledSystem.registry.routes.entries.length ≤ cooledSystem.registry.routeCapacity :=
  (registry_stays_bounded (fun _ => 0) cooledSystem cooledSystem_reachable).1

end ChatGateway
