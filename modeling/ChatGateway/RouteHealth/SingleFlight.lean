import ChatGateway.RouteHealth.FailureClasses
import ChatGateway.RouteHealth.Generations

set_option autoImplicit false

/-!
# Half-open single flight

A half-open lease is exclusive until the first of its two deadlines: the exclusive window, after
which other requests are admitted beside it, and its expiry, after which it can be granted anew.
-/

namespace ChatGateway

def ProbeRecorded (entry : Option HealthState) (generation : Nat)
    (expiresAt exclusiveUntil : Instant) : Prop :=
  ∃ state, entry = some state ∧ state.halfOpenGeneration = some generation ∧
    state.halfOpenExpiresAt = some expiresAt ∧ state.halfOpenExclusiveUntil = some exclusiveUntil

theorem HealthState.isActive_iff (state : HealthState) (now : Instant) :
    state.isActive now = true ↔ ∃ generation expiresAt,
      state.halfOpenGeneration = some generation ∧ state.halfOpenExpiresAt = some expiresAt ∧
        now < expiresAt := by
  unfold isActive
  cases state.halfOpenGeneration <;> cases state.halfOpenExpiresAt <;> simp

theorem ProbeRecorded.active {entry : Option HealthState} {generation : Nat}
    {expiresAt exclusiveUntil now : Instant}
    (recorded : ProbeRecorded entry generation expiresAt exclusiveUntil) (alive : now < expiresAt) :
    ∃ state, entry = some state ∧ state.isActive now = true := by
  obtain ⟨state, found, held, expiry, -⟩ := recorded
  exact ⟨state, found, (state.isActive_iff now).mpr ⟨generation, expiresAt, held, expiry, alive⟩⟩

theorem EntryEffect.probeRecorded {now : Instant} {permit : Permit}
    {before after : Option HealthState} (effect : EntryEffect now permit before after)
    {generation : Nat} {expiresAt exclusiveUntil : Instant}
    (recorded : ProbeRecorded before generation expiresAt exclusiveUntil) (alive : now < expiresAt)
    (unreleased : permit.release ≠ some generation) (uncleared : permit.clear = false)
    (unfailed : permit.fail = false) (untuned : permit.retune = false) :
    ProbeRecorded after generation expiresAt exclusiveUntil := by
  obtain ⟨active, present, live⟩ := recorded.active alive
  obtain ⟨state, found, held, expiry, window⟩ := recorded
  cases effect with
  | created => cases found
  | removed _ idle =>
    cases present
    simp [live] at idle
  | touched =>
    cases found
    exact ⟨_, rfl, held, expiry, window⟩
  | expired _ elapsed =>
    cases found
    simp only [expiry, Option.all_some, decide_eq_true_eq] at elapsed
    exact absurd alive (Nat.not_lt.mpr elapsed)
  | granted _ _ _ _ _ _ _ idle =>
    cases present
    simp [live] at idle
  | released _ other allowed owned =>
    cases found
    rw [held, Option.some.injEq] at owned
    exact absurd (owned ▸ allowed) unreleased
  | rearmed _ other _ allowed owned =>
    cases found
    rw [held, Option.some.injEq] at owned
    exact absurd (owned ▸ allowed) unreleased
  | cleared _ allowed => simp [uncleared] at allowed
  | failed _ _ allowed => simp [unfailed] at allowed
  | noted =>
    cases found
    exact ⟨_, rfl, held, expiry, window⟩
  | retuned _ _ _ _ allowed => simp [untuned] at allowed

theorem EntryEffects.probeRecorded {now : Instant} {permit : Permit}
    {before after : Option HealthState} (effects : EntryEffects now permit before after)
    {generation : Nat} {expiresAt exclusiveUntil : Instant}
    (recorded : ProbeRecorded before generation expiresAt exclusiveUntil) (alive : now < expiresAt)
    (unreleased : permit.release ≠ some generation) (uncleared : permit.clear = false)
    (unfailed : permit.fail = false) (untuned : permit.retune = false) :
    ProbeRecorded after generation expiresAt exclusiveUntil := by
  induction effects with
  | refl => exact recorded
  | tail _ effect ih => exact effect.probeRecorded ih alive unreleased uncleared unfailed untuned

namespace HealthState

theorem reserveGate_isActive (state : HealthState) (subject : String) (now : Instant) :
    (state.reserveGate subject now).1.isActive now = state.isActive now := by
  unfold reserveGate
  dsimp only
  split
  · rfl
  · split
    · split
      next elapsed =>
        have elapsed : state.halfOpenExpiresAt.all (· ≤ now) = true := elapsed
        cases expiry : state.halfOpenExpiresAt with
        | none => simp [isActive, dropHalfOpen, expiry]
        | some deadline =>
          simp only [expiry, Option.all_some, decide_eq_true_eq] at elapsed
          simp [isActive, dropHalfOpen, expiry, elapsed]
      next => split <;> rfl
    · rfl

theorem probeKeyGate_isActive (state : HealthState) (now : Instant) :
    (state.probeKeyGate now).1.isActive now = state.isActive now := by
  unfold probeKeyGate
  dsimp only
  split
  · rfl
  · split <;> rfl

theorem reserveGate_isSome_of_exclusive {state : HealthState} (subject : String) {now : Instant}
    {generation : Nat} {expiresAt exclusiveUntil : Instant}
    (held : state.halfOpenGeneration = some generation)
    (expiry : state.halfOpenExpiresAt = some expiresAt)
    (window : state.halfOpenExclusiveUntil = some exclusiveUntil) (alive : now < expiresAt)
    (exclusive : now < exclusiveUntil) : ((state.reserveGate subject now).2).isSome = true := by
  unfold reserveGate
  simp only [touch, held, expiry, window, Option.isSome_some, Option.all_some, Option.any_some,
    decide_eq_true_eq, if_true, exclusive, Nat.not_le.mpr alive, if_false]
  split <;> rfl

end HealthState

namespace RouteHealthRegistry

variable (registry : RouteHealthRegistry) (route : RouteHealthKey) (key : KeyHealthKey)
  (now : Instant)

theorem gateEntry_refuses {K : Type} [DecidableEq K] {table : Table K HealthState} {key : K}
    {gate : HealthState → HealthState × Option ReserveAnswer} {answer : ReserveAnswer}
    (refuses : ∀ state answer, table.lookup key = some state → (gate state).2 = some answer →
      answer.Refuses)
    (refused : (gateEntry table key gate).2 = some answer) : answer.Refuses := by
  rw [gateEntry_refusal, Option.bind_eq_some_iff] at refused
  obtain ⟨state, found, refused⟩ := refused
  exact refuses state answer found refused

section Exclusive

variable {registry route key now} {generation : Nat} {expiresAt exclusiveUntil : Instant}

theorem reserve_refuses_of_routeProbe (sound : registry.EveryEntry EntrySound)
    (enforced : registry.tuning.enforcementEnabled = true)
    (recorded : ProbeRecorded (registry.routes.lookup route) generation expiresAt exclusiveUntil)
    (alive : now < expiresAt) (exclusive : now < exclusiveUntil) :
    (registry.reserve route key now).2.Refuses := by
  obtain ⟨state, found, held, expiry, window⟩ := recorded
  unfold reserve
  simp only [enforced, Bool.not_true, Bool.false_eq_true, if_false]
  split
  next answer refused =>
    exact gateEntry_refuses (fun state _ found => (sound.2 key state found).reserveGate_refuses _ _)
      refused
  next =>
    split
    next answer refused =>
      exact gateEntry_refuses
        (fun state _ found => (sound.1 route state found).reserveGate_refuses _ _) refused
    next passed =>
      have busy := state.reserveGate_isSome_of_exclusive "route" held expiry window alive exclusive
      rw [gateEntry_refusal, found, Option.bind_some] at passed
      simp [passed] at busy

theorem reserve_refuses_of_keyProbe (sound : registry.EveryEntry EntrySound)
    (enforced : registry.tuning.enforcementEnabled = true)
    (recorded : ProbeRecorded (registry.keys.lookup key) generation expiresAt exclusiveUntil)
    (alive : now < expiresAt) (exclusive : now < exclusiveUntil) :
    (registry.reserve route key now).2.Refuses := by
  obtain ⟨state, found, held, expiry, window⟩ := recorded
  unfold reserve
  simp only [enforced, Bool.not_true, Bool.false_eq_true, if_false]
  split
  next answer refused =>
    exact gateEntry_refuses (fun state _ found => (sound.2 key state found).reserveGate_refuses _ _)
      refused
  next passed =>
    have busy := state.reserveGate_isSome_of_exclusive "key" held expiry window alive exclusive
    rw [gateEntry_refusal, found, Option.bind_some] at passed
    simp [passed] at busy

theorem reserveRouteHealthProbe_refuses_of_routeProbe (sound : registry.EveryEntry EntrySound)
    (enforced : registry.tuning.enforcementEnabled = true)
    (recorded : ProbeRecorded (registry.routes.lookup route) generation expiresAt exclusiveUntil)
    (alive : now < expiresAt) : (registry.reserveRouteHealthProbe route key now).2.Refuses := by
  obtain ⟨state, found, active⟩ := recorded.active alive
  unfold reserveRouteHealthProbe
  simp only [enforced, Bool.not_true, Bool.false_eq_true, if_false]
  split
  next answer refused =>
    exact gateEntry_refuses (fun state _ found => (sound.2 key state found).probeKeyGate_refuses _)
      refused
  next =>
    simp only [found]
    split
    next unclassed =>
      have classed := (sound.1 route state found).classed_of_leased (by
        simp only [HealthState.isActive, Bool.and_eq_true] at active
        exact active.1)
      simp [unclassed] at classed
    next failureClass _ =>
      simp only [probeRouteRefusal, active, if_true]
      exact .inr ⟨failureClass, halfOpenBusyRetry, state.lastFailureStatus, rfl⟩

theorem reserveRouteHealthProbe_refuses_of_keyProbe (sound : registry.EveryEntry EntrySound)
    (enforced : registry.tuning.enforcementEnabled = true)
    (recorded : ProbeRecorded (registry.keys.lookup key) generation expiresAt exclusiveUntil)
    (alive : now < expiresAt) : (registry.reserveRouteHealthProbe route key now).2.Refuses := by
  obtain ⟨state, found, active⟩ := recorded.active alive
  unfold reserveRouteHealthProbe
  simp only [enforced, Bool.not_true, Bool.false_eq_true, if_false]
  split
  next answer refused =>
    exact gateEntry_refuses (fun state _ found => (sound.2 key state found).probeKeyGate_refuses _)
      refused
  next passed =>
    have busy := state.probeKeyGate_isSome now
    rw [gateEntry_refusal, found, Option.bind_some] at passed
    simp [passed, active] at busy

end Exclusive

def GrantsProbe (now : Instant) (before after : Option HealthState) (generation : Nat) : Prop :=
  (∀ state, before = some state → state.isActive now = false) ∧
    ∃ expiresAt exclusiveUntil, ProbeRecorded after generation expiresAt exclusiveUntil

section Grants

variable {registry route key now} {generation : Nat}

theorem grantHalfOpen_grants {K : Type} [DecidableEq K] (table : Table K HealthState) {key : K}
    {state : HealthState} (found : table.lookup key = some state) (idle : state.isActive now = false)
    (update : HealthState → HealthState) {expiresAt exclusiveUntil : Instant}
    (held : (update state).halfOpenGeneration = some generation)
    (expiry : (update state).halfOpenExpiresAt = some expiresAt)
    (window : (update state).halfOpenExclusiveUntil = some exclusiveUntil) :
    GrantsProbe now (table.lookup key) ((table.modify key update).lookup key) generation := by
  refine ⟨fun current present => ?_, expiresAt, exclusiveUntil, update state, ?_, held, expiry,
    window⟩
  · cases found.symm.trans present
    exact idle
  · simp [found]

theorem reserveExpiredHalfOpenKey_grants
    (granted : (registry.reserveExpiredHalfOpenKey key now).2 = some generation) :
    GrantsProbe now (registry.keys.lookup key)
      ((registry.reserveExpiredHalfOpenKey key now).1.keys.lookup key) generation := by
  unfold reserveExpiredHalfOpenKey at granted ⊢
  split
  next free =>
    obtain ⟨state, found, available⟩ := (Option.any_eq_true _ _).mp free
    rw [if_pos free] at granted
    exact grantHalfOpen_grants registry.keys found (state.canReserve_idle now available).2 _
      granted rfl rfl
  next full => simp [full] at granted

theorem reserveExpiredHalfOpenRoute_grants
    (granted : (registry.reserveExpiredHalfOpenRoute route now).2 = some generation) :
    GrantsProbe now (registry.routes.lookup route)
      ((registry.reserveExpiredHalfOpenRoute route now).1.routes.lookup route) generation := by
  unfold reserveExpiredHalfOpenRoute at granted ⊢
  split
  next free =>
    obtain ⟨state, found, available⟩ := (Option.any_eq_true _ _).mp free
    rw [if_pos free] at granted
    exact grantHalfOpen_grants registry.routes found (state.canReserve_idle now available).2 _
      granted rfl rfl
  next full => simp [full] at granted

theorem GrantsProbe.of_gate {K : Type} [DecidableEq K] {table : Table K HealthState} {key : K}
    {gate : HealthState → HealthState × Option ReserveAnswer} {after : Option HealthState}
    (keeps : ∀ state, (gate state).1.isActive now = state.isActive now)
    (grants : GrantsProbe now ((gateEntry table key gate).1.lookup key) after generation) :
    GrantsProbe now (table.lookup key) after generation := by
  refine ⟨fun state found => ?_, grants.2⟩
  rw [← keeps state]
  refine grants.1 (gate state).1 ?_
  rw [gateEntry_lookup, if_pos rfl, found, Option.map_some]

theorem admitReserved_grants {lease : HealthLease}
    (ready : issuedLease (some (registry.admitReserved route key now).2) = some lease) :
    (∀ generation, lease.routeGeneration = some generation →
      GrantsProbe now (registry.routes.lookup route)
        ((registry.admitReserved route key now).1.routes.lookup route) generation) ∧
    (∀ generation, lease.keyGeneration = some generation →
      GrantsProbe now (registry.keys.lookup key)
        ((registry.admitReserved route key now).1.keys.lookup key) generation) := by
  cases ready
  refine ⟨fun generation granted => ?_, fun generation granted => ?_⟩
  · have grants := reserveExpiredHalfOpenRoute_grants granted
    rwa [reserveExpiredHalfOpenKey_routes] at grants
  · have grants := reserveExpiredHalfOpenKey_grants granted
    simpa [admitReserved, reserveExpiredHalfOpenRoute_keys] using grants

theorem reserve_grants {lease : HealthLease}
    (ready : issuedLease (some (registry.reserve route key now).2) = some lease) :
    (∀ generation, lease.routeGeneration = some generation →
      GrantsProbe now (registry.routes.lookup route)
        ((registry.reserve route key now).1.routes.lookup route) generation) ∧
    (∀ generation, lease.keyGeneration = some generation →
      GrantsProbe now (registry.keys.lookup key)
        ((registry.reserve route key now).1.keys.lookup key) generation) := by
  unfold reserve at ready ⊢
  split
  next passthrough =>
    rw [if_pos passthrough] at ready
    cases ready
    exact ⟨fun _ granted => (nomatch granted), fun _ granted => (nomatch granted)⟩
  next enforced =>
    rw [if_neg enforced] at ready
    dsimp only at ready ⊢
    split
    next answer refused =>
      rw [refused] at ready
      have nothing := gateEntry_issues_nothing (fun _ _ => reserveGate_issues_nothing) refused
      simp [nothing] at ready
    next passed =>
      rw [passed] at ready
      dsimp only at ready
      split
      next answer refused =>
        rw [refused] at ready
        have nothing := gateEntry_issues_nothing (fun _ _ => reserveGate_issues_nothing) refused
        simp [nothing] at ready
      next passedRoute =>
        rw [passedRoute] at ready
        obtain ⟨routeGrants, keyGrants⟩ := admitReserved_grants ready
        exact ⟨fun generation granted =>
            (routeGrants generation granted).of_gate fun state => state.reserveGate_isActive _ _,
          fun generation granted =>
            (keyGrants generation granted).of_gate fun state => state.reserveGate_isActive _ _⟩

theorem grantRouteHealthProbe_grants {observed state : HealthState} {lease : HealthLease}
    (found : registry.routes.lookup route = some state) (idle : state.isActive now = false)
    (ready : issuedLease (some (registry.grantRouteHealthProbe route key observed now).2) =
      some lease) :
    (∀ generation, lease.routeGeneration = some generation →
      GrantsProbe now (registry.routes.lookup route)
        ((registry.grantRouteHealthProbe route key observed now).1.routes.lookup route)
        generation) ∧
    (∀ generation, lease.keyGeneration = some generation →
      GrantsProbe now (registry.keys.lookup key)
        ((registry.grantRouteHealthProbe route key observed now).1.keys.lookup key)
        generation) := by
  cases ready
  refine ⟨fun generation granted => ?_, fun generation granted => ?_⟩
  · have start : registry.routes.lookup route =
        (registry.reserveExpiredHalfOpenKey key now).1.bumpNextGeneration.routes.lookup route := by
      rw [bumpNextGeneration, reserveExpiredHalfOpenKey_routes]
    rw [start] at found ⊢
    exact grantHalfOpen_grants _ found idle _ granted rfl rfl
  · exact reserveExpiredHalfOpenKey_grants granted

theorem reserveRouteHealthProbe_grants {lease : HealthLease}
    (ready : issuedLease (some (registry.reserveRouteHealthProbe route key now).2) = some lease) :
    (∀ generation, lease.routeGeneration = some generation →
      GrantsProbe now (registry.routes.lookup route)
        ((registry.reserveRouteHealthProbe route key now).1.routes.lookup route) generation) ∧
    (∀ generation, lease.keyGeneration = some generation →
      GrantsProbe now (registry.keys.lookup key)
        ((registry.reserveRouteHealthProbe route key now).1.keys.lookup key) generation) := by
  unfold reserveRouteHealthProbe at ready ⊢
  split
  next passthrough =>
    rw [if_pos passthrough] at ready
    cases ready
    exact ⟨fun _ granted => (nomatch granted), fun _ granted => (nomatch granted)⟩
  next enforced =>
    rw [if_neg enforced] at ready
    dsimp only at ready ⊢
    split
    next answer refused =>
      rw [refused] at ready
      have nothing := gateEntry_issues_nothing (fun _ _ => probeKeyGate_issues_nothing) refused
      simp [nothing] at ready
    next passed =>
      rw [passed] at ready
      dsimp only at ready
      split
      next missing =>
        rw [missing] at ready
        cases ready
      next state found =>
        rw [found] at ready
        dsimp only at ready
        split
        next unclassed =>
          rw [unclassed] at ready
          cases ready
        next failureClass classed =>
          rw [classed] at ready
          dsimp only at ready
          split
          next answer refused =>
            rw [refused] at ready
            have nothing := probeRouteRefusal_issues_nothing now refused
            simp [nothing] at ready
          next free =>
            rw [free] at ready
            have idle := (probeRouteRefusal_none now free).1
            obtain ⟨routeGrants, keyGrants⟩ := grantRouteHealthProbe_grants
              (by rw [Table.lookup_modify_self, found, Option.map_some])
              ((state.touch_isActive now now).trans idle) ready
            refine ⟨fun generation granted => ⟨fun current present => ?_,
                (routeGrants generation granted).2⟩,
              fun generation granted => (keyGrants generation granted).of_gate fun state => ?_⟩
            · cases found.symm.trans present
              exact idle
            · exact state.probeKeyGate_isActive now

end Grants

end RouteHealthRegistry

namespace HealthOperation

def EndsRouteProbe (registry : RouteHealthRegistry) (route : RouteHealthKey) (generation : Nat)
    (operation : HealthOperation) : Prop :=
  let permit := routePermit registry operation none route
  permit.release = some generation ∨ permit.clear = true ∨ permit.fail = true

def EndsKeyProbe (registry : RouteHealthRegistry) (key : KeyHealthKey) (generation : Nat)
    (operation : HealthOperation) : Prop :=
  let permit := keyPermit registry operation none key
  permit.release = some generation ∨ permit.clear = true ∨ permit.fail = true

variable (digest : List UInt8 → Nat) (operation : HealthOperation) {now : Instant}
  {registry : RouteHealthRegistry} {generation : Nat} {expiresAt exclusiveUntil : Instant}

theorem apply_routeProbe {route : RouteHealthKey}
    (recorded : ProbeRecorded (registry.routes.lookup route) generation expiresAt exclusiveUntil)
    (alive : now < expiresAt) (tuned : operation.KeepsTuning)
    (kept : ¬operation.EndsRouteProbe registry route generation) :
    ProbeRecorded ((operation.apply digest now registry).1.routes.lookup route) generation
      expiresAt exclusiveUntil := by
  have effects := operation.apply_route_effects digest now registry route
  simp only [EndsRouteProbe, not_or, Bool.not_eq_true] at kept
  obtain ⟨unreleased, uncleared, unfailed⟩ := kept
  refine effects.probeRecorded recorded alive ?_ ?_ ?_ ?_
  · cases operation <;> exact unreleased
  · cases operation <;> exact uncleared
  · cases operation <;> exact unfailed
  · cases operation with
    | updateRuntimeTuning => exact tuned.elim
    | finish lease outcome =>
      simp only [routePermit]
      split
      · cases outcome with
        | uncertainRouteFailure =>
          simp only [RouteHealthRegistry.finishRoutePermit]
          split <;> rfl
        | _ => rfl
      · rfl
    | observeRouteFailure =>
      simp only [routePermit]
      split <;> rfl
    | _ => rfl

theorem apply_keyProbe {key : KeyHealthKey}
    (recorded : ProbeRecorded (registry.keys.lookup key) generation expiresAt exclusiveUntil)
    (alive : now < expiresAt) (tuned : operation.KeepsTuning)
    (kept : ¬operation.EndsKeyProbe registry key generation) :
    ProbeRecorded ((operation.apply digest now registry).1.keys.lookup key) generation
      expiresAt exclusiveUntil := by
  have effects := operation.apply_key_effects digest now registry key
  simp only [EndsKeyProbe, not_or, Bool.not_eq_true] at kept
  obtain ⟨unreleased, uncleared, unfailed⟩ := kept
  refine effects.probeRecorded recorded alive ?_ ?_ ?_ ?_
  · cases operation <;> exact unreleased
  · cases operation <;> exact uncleared
  · cases operation <;> exact unfailed
  · cases operation with
    | updateRuntimeTuning => exact tuned.elim
    | finish lease outcome =>
      simp only [keyPermit]
      split
      · cases outcome <;> rfl
      · rfl
    | observeKeyFailure =>
      simp only [keyPermit]
      split <;> rfl
    | _ => rfl

end HealthOperation

def RouteProbeGoesOn (route : RouteHealthKey) (generation : Nat) (system : HealthSystem)
    (label : Option HealthOperation) : Prop :=
  ∀ operation, label = some operation →
    operation.KeepsTuning ∧ ¬operation.EndsRouteProbe system.registry route generation

def KeyProbeGoesOn (key : KeyHealthKey) (generation : Nat) (system : HealthSystem)
    (label : Option HealthOperation) : Prop :=
  ∀ operation, label = some operation →
    operation.KeepsTuning ∧ ¬operation.EndsKeyProbe system.registry key generation

section Runs

variable {digest : List UInt8 → Nat} {first later : HealthSystem} {generation : Nat}
  {expiresAt exclusiveUntil : Instant}

theorem routeProbe_kept {route : RouteHealthKey}
    (run : Transition.Steps (HealthStep digest) (RouteProbeGoesOn route generation) first later)
    (recorded : ProbeRecorded (first.registry.routes.lookup route) generation expiresAt
      exclusiveUntil) :
    later.registry.tuning = first.registry.tuning ∧ (later.now < expiresAt →
      ProbeRecorded (later.registry.routes.lookup route) generation expiresAt exclusiveUntil) := by
  refine run.invariant (fun system => system.registry.tuning = first.registry.tuning ∧
    (system.now < expiresAt →
      ProbeRecorded (system.registry.routes.lookup route) generation expiresAt exclusiveUntil))
    ?_ ⟨rfl, fun _ => recorded⟩
  rintro before label after step goesOn ⟨tuning, recorded⟩
  cases step with
  | operate operation now forward =>
    obtain ⟨tuned, kept⟩ := goesOn operation rfl
    refine ⟨(operation.apply_tuning digest now _ tuned).trans tuning, fun alive => ?_⟩
    exact operation.apply_routeProbe digest (recorded (Nat.lt_of_le_of_lt forward alive)) alive
      tuned kept
  | reorder routes keys sameRoutes =>
    refine ⟨tuning, fun alive => ?_⟩
    rw [sameRoutes.lookup]
    exact recorded alive

theorem keyProbe_kept {key : KeyHealthKey}
    (run : Transition.Steps (HealthStep digest) (KeyProbeGoesOn key generation) first later)
    (recorded : ProbeRecorded (first.registry.keys.lookup key) generation expiresAt
      exclusiveUntil) :
    later.registry.tuning = first.registry.tuning ∧ (later.now < expiresAt →
      ProbeRecorded (later.registry.keys.lookup key) generation expiresAt exclusiveUntil) := by
  refine run.invariant (fun system => system.registry.tuning = first.registry.tuning ∧
    (system.now < expiresAt →
      ProbeRecorded (system.registry.keys.lookup key) generation expiresAt exclusiveUntil))
    ?_ ⟨rfl, fun _ => recorded⟩
  rintro before label after step goesOn ⟨tuning, recorded⟩
  cases step with
  | operate operation now forward =>
    obtain ⟨tuned, kept⟩ := goesOn operation rfl
    refine ⟨(operation.apply_tuning digest now _ tuned).trans tuning, fun alive => ?_⟩
    exact operation.apply_keyProbe digest (recorded (Nat.lt_of_le_of_lt forward alive)) alive
      tuned kept
  | reorder routes keys sameRoutes sameKeys =>
    refine ⟨tuning, fun alive => ?_⟩
    rw [sameKeys.lookup]
    exact recorded alive

end Runs

section SingleFlight

variable (digest : List UInt8 → Nat) (system : HealthSystem) (operation : HealthOperation)
  (now : Instant)

/-- A call that grants a probe of a route finds no other live one, and while the probe goes on
and both of its deadlines lie ahead, every request on the route is turned away. -/
def RouteSingleFlight : Prop :=
  ∀ lease generation,
    issuedLease (operation.apply digest now system.registry).2 = some lease →
    lease.routeGeneration = some generation →
    (∀ state, system.registry.routes.lookup lease.route = some state →
      state.isActive now = false) ∧
    ∃ expiresAt exclusiveUntil,
      ProbeRecorded ((system.perform digest operation now).registry.routes.lookup lease.route)
        generation expiresAt exclusiveUntil ∧
      ∀ later moment key,
        Transition.Steps (HealthStep digest) (RouteProbeGoesOn lease.route generation)
          (system.perform digest operation now) later →
        later.now ≤ moment → moment < expiresAt → moment < exclusiveUntil →
        (later.registry.reserve lease.route key moment).2.Refuses ∧
          (later.registry.reserveRouteHealthProbe lease.route key moment).2.Refuses

def KeySingleFlight : Prop :=
  ∀ lease generation,
    issuedLease (operation.apply digest now system.registry).2 = some lease →
    lease.keyGeneration = some generation →
    (∀ state, system.registry.keys.lookup lease.key = some state → state.isActive now = false) ∧
    ∃ expiresAt exclusiveUntil,
      ProbeRecorded ((system.perform digest operation now).registry.keys.lookup lease.key)
        generation expiresAt exclusiveUntil ∧
      ∀ later moment route,
        Transition.Steps (HealthStep digest) (KeyProbeGoesOn lease.key generation)
          (system.perform digest operation now) later →
        later.now ≤ moment → moment < expiresAt → moment < exclusiveUntil →
        (later.registry.reserve route lease.key moment).2.Refuses ∧
          (later.registry.reserveRouteHealthProbe route lease.key moment).2.Refuses

/-- A request admitted beside a live probe carries no generation of the entry the probe is on, and
leaves the probe there. -/
def AdmitsBeside : Prop :=
  ∀ route key lease generation expiresAt exclusiveUntil,
    issuedLease (some (system.registry.reserve route key now).2) = some lease →
    exclusiveUntil ≤ now → now < expiresAt →
    (ProbeRecorded (system.registry.routes.lookup route) generation expiresAt exclusiveUntil →
      lease.routeGeneration = none ∧
      ProbeRecorded ((system.registry.reserve route key now).1.routes.lookup route) generation
        expiresAt exclusiveUntil) ∧
    (ProbeRecorded (system.registry.keys.lookup key) generation expiresAt exclusiveUntil →
      lease.keyGeneration = none ∧
      ProbeRecorded ((system.registry.reserve route key now).1.keys.lookup key) generation
        expiresAt exclusiveUntil)

end SingleFlight

section Results

variable {digest : List UInt8 → Nat} {system : HealthSystem} {operation : HealthOperation}
  {now : Instant} {lease : HealthLease}

-- Only the two reservations issue leases, for the route and key they were asked for.
theorem HealthOperation.issued_cases
    (ready : issuedLease (operation.apply digest now system.registry).2 = some lease) :
    operation = .reserve lease.route lease.key ∨
      operation = .reserveRouteHealthProbe lease.route lease.key := by
  cases operation with
  | reserve route key =>
    have issues := system.registry.reserve_issues route key now
    simp only [RouteHealthRegistry.Issues] at issues
    rw [show issuedLease (some (system.registry.reserve route key now).2) = some lease from ready]
      at issues
    exact .inl (by rw [issues.1, issues.2.1])
  | reserveRouteHealthProbe route key =>
    have issues := system.registry.reserveRouteHealthProbe_issues route key now
    simp only [RouteHealthRegistry.Issues] at issues
    rw [show issuedLease (some (system.registry.reserveRouteHealthProbe route key now).2) =
      some lease from ready] at issues
    exact .inr (by rw [issues.1, issues.2.1])
  | _ => cases ready

theorem HealthOperation.issued_grants
    (ready : issuedLease (operation.apply digest now system.registry).2 = some lease) :
    (∀ generation, lease.routeGeneration = some generation →
      RouteHealthRegistry.GrantsProbe now (system.registry.routes.lookup lease.route)
        ((system.perform digest operation now).registry.routes.lookup lease.route) generation) ∧
    (∀ generation, lease.keyGeneration = some generation →
      RouteHealthRegistry.GrantsProbe now (system.registry.keys.lookup lease.key)
        ((system.perform digest operation now).registry.keys.lookup lease.key) generation) := by
  rcases issued_cases ready with rfl | rfl
  · exact RouteHealthRegistry.reserve_grants ready
  · exact RouteHealthRegistry.reserveRouteHealthProbe_grants ready

theorem HealthOperation.issued_keepsTuning
    (ready : issuedLease (operation.apply digest now system.registry).2 = some lease) :
    operation.KeepsTuning ∧ operation.LeaseIssued system.leases := by
  rcases issued_cases ready with rfl | rfl <;> exact ⟨trivial, trivial⟩

end Results

/-- Half-open single flight, for routes and for keys, in every run with enforcement on. -/
theorem halfOpen_singleFlight (digest : List UInt8 → Nat) (system : HealthSystem)
    (reachable : system.Reachable digest)
    (enforced : system.registry.tuning.enforcementEnabled = true) (operation : HealthOperation)
    (now : Instant) (forward : system.now ≤ now) :
    RouteSingleFlight digest system operation now ∧ KeySingleFlight digest system operation now ∧
      AdmitsBeside system now := by
  have reached (lease : HealthLease)
      (ready : issuedLease (operation.apply digest now system.registry).2 = some lease) :
      (system.perform digest operation now).Reachable digest ∧
        (system.perform digest operation now).registry.tuning = system.registry.tuning := by
    obtain ⟨tuned, issued⟩ := HealthOperation.issued_keepsTuning ready
    exact ⟨reachable.advance (.operate system operation now forward issued),
      operation.apply_tuning digest now system.registry tuned⟩
  refine ⟨fun lease generation ready granted => ?_, fun lease generation ready granted => ?_, ?_⟩
  · obtain ⟨idle, expiresAt, exclusiveUntil, recorded⟩ :=
      (HealthOperation.issued_grants ready).1 generation granted
    refine ⟨idle, expiresAt, exclusiveUntil, recorded, fun later moment key run after alive window => ?_⟩
    obtain ⟨grantReached, grantTuning⟩ := reached lease ready
    have sound := HealthSystem.Reachable.sound (grantReached.extend run)
    obtain ⟨tuning, kept⟩ := routeProbe_kept run recorded
    rw [← grantTuning, ← tuning] at enforced
    have live := kept (Nat.lt_of_le_of_lt after alive)
    exact ⟨RouteHealthRegistry.reserve_refuses_of_routeProbe sound enforced live alive window,
      RouteHealthRegistry.reserveRouteHealthProbe_refuses_of_routeProbe sound enforced live alive⟩
  · obtain ⟨idle, expiresAt, exclusiveUntil, recorded⟩ :=
      (HealthOperation.issued_grants ready).2 generation granted
    refine ⟨idle, expiresAt, exclusiveUntil, recorded, fun later moment route run after alive window => ?_⟩
    obtain ⟨grantReached, grantTuning⟩ := reached lease ready
    have sound := HealthSystem.Reachable.sound (grantReached.extend run)
    obtain ⟨tuning, kept⟩ := keyProbe_kept run recorded
    rw [← grantTuning, ← tuning] at enforced
    have live := kept (Nat.lt_of_le_of_lt after alive)
    exact ⟨RouteHealthRegistry.reserve_refuses_of_keyProbe sound enforced live alive window,
      RouteHealthRegistry.reserveRouteHealthProbe_refuses_of_keyProbe sound enforced live alive⟩
  · intro route key lease generation expiresAt exclusiveUntil ready elapsed alive
    have grants := RouteHealthRegistry.reserve_grants ready
    refine ⟨fun recorded => ⟨?_, ?_⟩, fun recorded => ⟨?_, ?_⟩⟩
    · by_contra granted
      obtain ⟨fresh, granted⟩ := Option.ne_none_iff_exists'.mp granted
      obtain ⟨state, found, active⟩ := recorded.active alive
      simp [(grants.1 fresh granted).1 state found] at active
    · exact HealthOperation.apply_routeProbe digest (.reserve route key) recorded alive trivial
        (by simp [HealthOperation.EndsRouteProbe, HealthOperation.routePermit])
    · by_contra granted
      obtain ⟨fresh, granted⟩ := Option.ne_none_iff_exists'.mp granted
      obtain ⟨state, found, active⟩ := recorded.active alive
      simp [(grants.2 fresh granted).1 state found] at active
    · exact HealthOperation.apply_keyProbe digest (.reserve route key) recorded alive trivial
        (by simp [HealthOperation.EndsKeyProbe, HealthOperation.keyPermit])

theorem halfOpen_singleFlight_after_cooldown :
    issuedLease ((HealthOperation.reserve exampleRoute exampleKey).apply (fun _ => 0)
      (Duration.fromSecs 10) cooledSystem.registry).2 = some exampleProbe ∧
    RouteSingleFlight (fun _ => 0) cooledSystem (.reserve exampleRoute exampleKey)
      (Duration.fromSecs 10) :=
  ⟨by decide +kernel, (halfOpen_singleFlight (fun _ => 0) cooledSystem cooledSystem_reachable rfl
    (.reserve exampleRoute exampleKey) (Duration.fromSecs 10) (Nat.zero_le _)).1⟩

/-- A lease that lives shorter than its exclusive window is granted anew inside the window. -/
theorem short_lease_granted_anew_inside_window :
    ∃ system : HealthSystem, system.Reachable (fun _ => 0) ∧
      system.registry.tuning.enforcementEnabled = true ∧ system.now < Duration.fromSecs 12 ∧
      ProbeRecorded (system.registry.routes.lookup exampleRoute) 1 (Duration.fromSecs 11)
        (Duration.fromSecs 13) ∧
      issuedLease (some (system.registry.reserve exampleRoute exampleKey
        (Duration.fromSecs 12)).2) =
        some ⟨exampleRoute, exampleKey, none, some 2, some 1, true⟩ := by
  refine ⟨_, HealthSystem.replay_reachable _
    [(.observeRouteFailure exampleRoute .transientServer none false, 0),
      (.reserve exampleRoute exampleKey, Duration.fromSecs 10)]
    (HealthSystem.start_reachable _ 16_384 4_096 { RouteHealthSettings.default with
      halfOpenTtlSeconds := 1 } 0) rfl, rfl, by decide +kernel, ⟨_, rfl, rfl, rfl, rfl⟩,
    by decide +kernel⟩

end ChatGateway
