import ChatGateway.RouteHealth.RegistryEffects
import ChatGateway.Shared.Transition

set_option autoImplicit false

/-!
# Runs of the registry

Any number of requests call the registry one after another at non-decreasing times. A system
keeps every lease that was issued, finished or not, and a request finishes only leases it got.
-/

namespace ChatGateway

structure HealthSystem where
  registry : RouteHealthRegistry
  now : Instant
  leases : List HealthLease

namespace HealthOperation

def LeaseIssued (leases : List HealthLease) : HealthOperation → Prop
  | .finish lease _ => lease ∈ leases
  | _ => True

def KeepsTuning : HealthOperation → Prop
  | .updateRuntimeTuning _ | .setRouteHealthEnforcementEnabled _ => False
  | _ => True

end HealthOperation

def HealthLease.grants (lease : HealthLease) : Nat :=
  lease.keyGeneration.toList.length + lease.routeGeneration.toList.length

namespace HealthSystem

def start (routeCapacity perUpstreamCapacity : Nat) (settings : RouteHealthSettings)
    (now : Instant) : HealthSystem where
  registry := .newWithRuntimeTuningAndEnforcement routeCapacity perUpstreamCapacity settings
  now := now
  leases := []

def Initial (system : HealthSystem) : Prop :=
  ∃ routeCapacity perUpstreamCapacity settings now,
    system = start routeCapacity perUpstreamCapacity settings now

def perform (digest : List UInt8 → Nat) (system : HealthSystem) (operation : HealthOperation)
    (now : Instant) : HealthSystem :=
  let performed := operation.apply digest now system.registry
  { registry := performed.1
    now := now
    leases := (issuedLease performed.2).toList ++ system.leases }

def grantCount (system : HealthSystem) : Nat :=
  (system.leases.map HealthLease.grants).sum

end HealthSystem

section Runs

variable (digest : List UInt8 → Nat)

inductive HealthStep : HealthSystem → Option HealthOperation → HealthSystem → Prop
  | operate (system : HealthSystem) (operation : HealthOperation) (now : Instant)
      (forward : system.now ≤ now) (issued : operation.LeaseIssued system.leases) :
      HealthStep system (some operation) (system.perform digest operation now)
  | reorder (system : HealthSystem) (routes : Table RouteHealthKey HealthState)
      (keys : Table KeyHealthKey HealthState) (sameRoutes : system.registry.routes.Reordered routes)
      (sameKeys : system.registry.keys.Reordered keys) :
      HealthStep system none
        { system with registry := { system.registry with routes := routes, keys := keys } }

abbrev HealthSystem.Reachable : HealthSystem → Prop :=
  Transition.Reachable HealthSystem.Initial (HealthStep digest)

end Runs

theorem HealthStep.leases_grow {digest : List UInt8 → Nat} {before after : HealthSystem}
    {label : Option HealthOperation} (step : HealthStep digest before label after)
    {lease : HealthLease} (issued : lease ∈ before.leases) : lease ∈ after.leases := by
  cases step with
  | operate => exact List.mem_append_right _ issued
  | reorder => exact issued

theorem HealthStep.grantCount_le {digest : List UInt8 → Nat} {before after : HealthSystem}
    {label : Option HealthOperation} (step : HealthStep digest before label after) :
    before.grantCount ≤ after.grantCount := by
  cases step with
  | operate => simp [HealthSystem.grantCount, HealthSystem.perform]
  | reorder => exact Nat.le_refl _

theorem HealthOperation.apply_tuning (digest : List UInt8 → Nat) (operation : HealthOperation)
    (now : Instant) (registry : RouteHealthRegistry) (kept : operation.KeepsTuning) :
    (operation.apply digest now registry).1.tuning = registry.tuning := by
  cases operation with
  | reserve route key => exact registry.reserve_tuning now route key
  | reserveRouteHealthProbe route key => exact registry.reserveRouteHealthProbe_tuning now route key
  | finish lease outcome =>
    obtain ⟨_, _, _, frame⟩ := registry.finish_frame now digest lease outcome
    simp only [apply, frame]
  | observeRouteFailure route failureClass retryAfter shared =>
    obtain ⟨_, _, frame⟩ := registry.observeRouteFailureAt_frame now digest route
      { failureClass := failureClass, sharedHostFailureDomain := shared } retryAfter
    simp only [apply, RouteHealthRegistry.observeRouteFailure, frame]
  | observeKeyFailure key failureClass retryAfter =>
    obtain ⟨_, _, frame⟩ := registry.observeKeyFailureAt_frame now digest key failureClass retryAfter
    simp only [apply, RouteHealthRegistry.observeKeyFailure, frame]
  | clearRouteHealth | removeClearedRouteAndKey | retainRoutes => rfl
  | updateRuntimeTuning | setRouteHealthEnforcementEnabled => exact kept.elim

namespace HealthOperation

instance (leases : List HealthLease) :
    (operation : HealthOperation) → Decidable (operation.LeaseIssued leases)
  | .finish lease _ => inferInstanceAs (Decidable (lease ∈ leases))
  | .reserve .. | .reserveRouteHealthProbe .. | .observeRouteFailure .. | .observeKeyFailure ..
  | .clearRouteHealth .. | .removeClearedRouteAndKey .. | .retainRoutes ..
  | .updateRuntimeTuning .. | .setRouteHealthEnforcementEnabled .. => .isTrue trivial

end HealthOperation

namespace HealthSystem

section Replay

variable (digest : List UInt8 → Nat)

/-- Run the calls in order; `none` when a time goes backwards or a lease was never issued. -/
def replay (system : HealthSystem) : List (HealthOperation × Instant) → Option HealthSystem
  | [] => some system
  | (operation, now) :: calls =>
    if system.now ≤ now ∧ operation.LeaseIssued system.leases then
      (system.perform digest operation now).replay calls
    else
      none

theorem replay_reachable (calls : List (HealthOperation × Instant)) {first last : HealthSystem}
    (reachable : first.Reachable digest) (ran : first.replay digest calls = some last) :
    last.Reachable digest := by
  induction calls generalizing first with
  | nil =>
    cases ran
    exact reachable
  | cons call calls ih =>
    unfold replay at ran
    split at ran
    next allowed =>
      exact ih (reachable.advance (.operate first call.1 call.2 allowed.1 allowed.2)) ran
    next => cases ran

theorem start_reachable (routeCapacity perUpstreamCapacity : Nat) (settings : RouteHealthSettings)
    (now : Instant) : (start routeCapacity perUpstreamCapacity settings now).Reachable digest :=
  ⟨_, ⟨_, _, _, _, rfl⟩, .refl⟩

end Replay

end HealthSystem

def exampleRoute : RouteHealthKey := ⟨"upstream", "fingerprint", "model", .responses⟩

def exampleKey : KeyHealthKey := ⟨"upstream", "fingerprint"⟩

def cooledSystem : HealthSystem :=
  (HealthSystem.start 16_384 4_096 .default 0).perform (fun _ => 0)
    (.observeRouteFailure exampleRoute .transientServer none false) 0

theorem cooledSystem_reachable : cooledSystem.Reachable (fun _ => 0) :=
  (HealthSystem.start_reachable _ _ _ _ _).advance (.operate _ _ _ (Nat.le_refl 0) trivial)

def exampleProbe : HealthLease := ⟨exampleRoute, exampleKey, none, some 1, some 1, true⟩

def probingSystem : HealthSystem :=
  cooledSystem.perform (fun _ => 0) (.reserve exampleRoute exampleKey) (Duration.fromSecs 10)

theorem probingSystem_reachable : probingSystem.Reachable (fun _ => 0) :=
  cooledSystem_reachable.advance (.operate _ _ _ (Nat.zero_le _) trivial)

theorem HealthSystem.Initial.lookup {system : HealthSystem} (initial : system.Initial)
    (route : RouteHealthKey) (key : KeyHealthKey) :
    system.registry.routes.lookup route = none ∧ system.registry.keys.lookup key = none := by
  obtain ⟨_, _, _, _, rfl⟩ := initial
  exact ⟨AList.lookup_empty route, AList.lookup_empty key⟩

def RouteHealthRegistry.EveryEntry (registry : RouteHealthRegistry)
    (Holds : Option HealthState → Prop) : Prop :=
  (∀ route, Holds (registry.routes.lookup route)) ∧ ∀ key, Holds (registry.keys.lookup key)

-- A property of entries that holds of a missing one and that every effect preserves holds of
-- every entry a run reaches.
theorem HealthSystem.Reachable.everyEntry {digest : List UInt8 → Nat} {system : HealthSystem}
    (reachable : system.Reachable digest) {Holds : Option HealthState → Prop} (absent : Holds none)
    (preserved : ∀ now permit before after, EntryEffect now permit before after →
      Holds before → Holds after) : system.registry.EveryEntry Holds := by
  have effects {now : Instant} {permit : Permit} {before after : Option HealthState}
      (effects : EntryEffects now permit before after) (holds : Holds before) : Holds after := by
    induction effects with
    | refl => exact holds
    | tail _ effect ih => exact preserved _ _ _ _ effect ih
  refine reachable.invariant (fun system => system.registry.EveryEntry Holds) ?_ ?_
  · intro first initial
    refine ⟨fun route => ?_, fun key => ?_⟩
    · exact (initial.lookup route ⟨"", ""⟩).1 ▸ absent
    · exact (initial.lookup ⟨"", "", "", .responses⟩ key).2 ▸ absent
  · intro before label after step holds
    cases step with
    | operate operation now =>
      exact ⟨fun route => effects (operation.apply_route_effects digest now _ route) (holds.1 route),
        fun key => effects (operation.apply_key_effects digest now _ key) (holds.2 key)⟩
    | reorder routes keys sameRoutes sameKeys =>
      exact ⟨fun route => (sameRoutes.lookup route) ▸ holds.1 route,
        fun key => (sameKeys.lookup key) ▸ holds.2 key⟩

theorem HealthSystem.Reachable.sound {digest : List UInt8 → Nat} {system : HealthSystem}
    (reachable : system.Reachable digest) : system.registry.EveryEntry EntrySound :=
  reachable.everyEntry (fun _ found => by cases found) fun _ _ _ _ effect => effect.sound

end ChatGateway
