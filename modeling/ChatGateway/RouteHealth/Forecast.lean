import ChatGateway.RouteHealth.Views
import ChatGateway.Routing.RouteRetry
import Mathlib.Data.List.ReduceOption
import Mathlib.Data.String.Basic

set_option autoImplicit false

/-!
# Recovery forecasts

When a route that is refused now will be admitted again, read off the registry without a
reservation. A reservation has two layers to pass, the key and the route, and the forecast looks at
the same two.
-/

namespace ChatGateway

namespace HealthState

def halfOpenRemaining (state : HealthState) (now : Instant) : Duration :=
  (state.halfOpenExpiresAt.map (· - now)).getD 0

def halfOpenExclusiveRemaining (state : HealthState) (now : Instant) : Duration :=
  (state.halfOpenExclusiveUntil.map (· - now)).getD (state.halfOpenRemaining now)

def halfOpenBusyWait (state : HealthState) (now : Instant) : Duration :=
  max (min (state.halfOpenRemaining now) (state.halfOpenExclusiveRemaining now)) halfOpenBusyRetry

end HealthState

def healthStateRecovery (state : HealthState) (now : Instant) : Option RouteRecovery :=
  match state.lastFailureClass, state.cooldownUntil with
  | some failureClass, some _ =>
    if state.isActive now then
      some
        { failureClass := failureClass
          retryAfter := halfOpenBusyRetry
          halfOpenRemaining := some (state.halfOpenBusyWait now) }
    else
      some
        { failureClass := failureClass
          retryAfter := state.retryAfter now
          halfOpenRemaining := none }
  | _, _ => none

def RouteRecovery.rank (recovery : RouteRecovery) : Duration ×ₗ String :=
  toLex (recovery.retryAfter, recovery.failureClass.asStr)

def RouteHealthKey.key (route : RouteHealthKey) : KeyHealthKey :=
  ⟨route.upstreamId, route.keyFingerprint⟩

namespace RouteHealthRegistry

def layers (registry : RouteHealthRegistry) (route : RouteHealthKey) : List HealthState :=
  [registry.keys.lookup route.key, registry.routes.lookup route].reduceOption

def recoveries (registry : RouteHealthRegistry) (route : RouteHealthKey) (now : Instant) :
    List RouteRecovery :=
  (registry.layers route).filterMap (healthStateRecovery · now)

def temporaryRecoveryForRoute (registry : RouteHealthRegistry) (now : Instant)
    (route : RouteHealthKey) : Option RouteRecovery :=
  let recoveries := registry.recoveries route now
  if recoveries.isEmpty || recoveries.any (!·.failureClass.isTemporary) then none
  else
    -- `max_by_key` takes the last of several greatest elements.
    recoveries.reverse.argmax RouteRecovery.rank

def earliestTemporaryRecovery (registry : RouteHealthRegistry) (routes : List RouteHealthKey)
    (now : Instant) : Option RouteRecovery :=
  (routes.filterMap (registry.temporaryRecoveryForRoute now)).argmin RouteRecovery.rank

end RouteHealthRegistry

namespace HealthState

variable {state : HealthState} {now : Instant}

theorem isCooling_iff :
    state.isCooling now = true ↔ ∃ deadline, state.cooldownUntil = some deadline ∧ now < deadline := by
  unfold isCooling
  cases state.cooldownUntil <;> simp

theorem isActive_later {moment : Instant} (free : state.isActive now = false)
    (later : now ≤ moment) : state.isActive moment = false := by
  unfold isActive at free ⊢
  cases held : state.halfOpenGeneration.isSome with
  | false => rfl
  | true =>
    cases expiry : state.halfOpenExpiresAt with
    | none => rfl
    | some expiresAt =>
      simp only [held, expiry, Option.any_some, Bool.true_and, decide_eq_false_iff_not,
        Nat.not_lt] at free
      simp only [Option.any_some, Bool.true_and, decide_eq_false_iff_not, Nat.not_lt]
      exact Nat.le_trans free later

theorem recovery_iff (free : state.isActive now = false) {recovery : RouteRecovery} :
    healthStateRecovery state now = some recovery ↔
      ∃ failureClass deadline, state.lastFailureClass = some failureClass ∧
        state.cooldownUntil = some deadline ∧
        recovery = ⟨failureClass, deadline - now, none⟩ := by
  unfold healthStateRecovery
  cases classed : state.lastFailureClass with
  | none => simp
  | some failureClass =>
    cases cooled : state.cooldownUntil with
    | none => simp
    | some deadline =>
      simp only [free, retryAfter, cooled, Option.map_some, Option.getD_some, Bool.false_eq_true,
        if_false, Option.some.injEq]
      constructor
      · intro same
        exact ⟨_, _, rfl, rfl, same.symm⟩
      · rintro ⟨_, _, rfl, rfl, same⟩
        exact same.symm

-- What the gate of `reserve` does with an entry that no request probes.
theorem Sound.reserveGate_of_free (sound : state.Sound) (free : state.isActive now = false)
    (subject : String) :
    (state.reserveGate subject now).2.map answerKind =
      if state.isCooling now then some (.ok (.cooling (state.retryAfter now))) else none := by
  rw [(sound.reserveGate now subject).2.2, view_refusal, free]
  cases state.isCooling now <;> rfl

end HealthState

namespace RouteHealthRegistry

variable {registry : RouteHealthRegistry} {route : RouteHealthKey} {now : Instant}

def CoolingAt (registry : RouteHealthRegistry) (route : RouteHealthKey) (now : Instant) : Prop :=
  ∃ failureClass retryAfter upstreamStatus, (registry.reserve route route.key now).2 =
    .ok (.cooling failureClass retryAfter upstreamStatus)

def ReadyAt (registry : RouteHealthRegistry) (route : RouteHealthKey) (now : Instant) : Prop :=
  ∃ lease, (registry.reserve route route.key now).2 = .ok (.ready lease)

theorem cooling_of_kind {answer : ReserveAnswer} {delay : Duration}
    (kind : answerKind answer = .ok (.cooling delay)) :
    ∃ failureClass retryAfter upstreamStatus,
      answer = .ok (.cooling failureClass retryAfter upstreamStatus) := by
  cases answer with
  | error message => cases kind
  | ok availability =>
    cases availability with
    | ready lease => cases kind
    | cooling failureClass retryAfter upstreamStatus => exact ⟨_, _, _, rfl⟩
    | halfOpenBusy failureClass retryAfter upstreamStatus => cases kind

theorem mem_layers {state : HealthState} :
    state ∈ registry.layers route ↔
      registry.keys.lookup route.key = some state ∨ registry.routes.lookup route = some state := by
  rw [layers, List.reduceOption_mem_iff]
  simp [eq_comm]

-- The gate of an entry that no request probes lets through exactly what is not cooling.
theorem gateEntry_of_free {K : Type} [DecidableEq K] {table : Table K HealthState} {key : K}
    {subject : String} (sound : EntrySound (table.lookup key))
    (free : ∀ state, table.lookup key = some state → state.isActive now = false) :
    (gateEntry table key (HealthState.reserveGate subject now)).2.map answerKind =
      (table.lookup key).bind fun state =>
        if state.isCooling now then some (.ok (.cooling (state.retryAfter now))) else none := by
  rw [gateEntry_refusal]
  cases found : table.lookup key with
  | none => rfl
  | some state => exact (sound state found).reserveGate_of_free (free state found) subject

def Free (registry : RouteHealthRegistry) (route : RouteHealthKey) (now : Instant) : Prop :=
  ∀ state ∈ registry.layers route, state.isActive now = false

section Reservation

variable (sound : registry.EveryEntry EntrySound) (free : registry.Free route now)

include sound free

theorem keyGate_of_free :
    (gateEntry registry.keys route.key (HealthState.reserveGate "key" now)).2.map answerKind =
      (registry.keys.lookup route.key).bind fun state =>
        if state.isCooling now then some (.ok (.cooling (state.retryAfter now))) else none :=
  gateEntry_of_free (sound.2 route.key) fun state found => free state (mem_layers.2 (.inl found))

theorem routeGate_of_free :
    (gateEntry registry.routes route (HealthState.reserveGate "route" now)).2.map answerKind =
      (registry.routes.lookup route).bind fun state =>
        if state.isCooling now then some (.ok (.cooling (state.retryAfter now))) else none :=
  gateEntry_of_free (sound.1 route) fun state found => free state (mem_layers.2 (.inr found))

theorem coolingAt_of_layer (enforced : registry.tuning.enforcementEnabled = true) {state : HealthState} (isLayer : state ∈ registry.layers route)
    (cooling : state.isCooling now = true) : registry.CoolingAt route now := by
  have keyGate := keyGate_of_free sound free
  have routeGate := routeGate_of_free sound free
  unfold CoolingAt reserve
  simp only [enforced, Bool.not_true, Bool.false_eq_true, if_false]
  split
  · next answer refused =>
    rw [refused, Option.map_some, eq_comm, Option.bind_eq_some_iff] at keyGate
    obtain ⟨keyState, -, kind⟩ := keyGate
    split at kind
    · exact cooling_of_kind (Option.some.inj kind).symm
    · cases kind
  · next passed =>
    -- the key lets the request through, so it is the route that cools
    rw [passed, Option.map_none, eq_comm, Option.bind_eq_none_iff] at keyGate
    have isRoute : registry.routes.lookup route = some state := by
      rcases mem_layers.1 isLayer with isKey | isRoute
      · have warm := keyGate state isKey
        rw [if_pos cooling] at warm
        cases warm
      · exact isRoute
    rw [isRoute, Option.bind_some, if_pos cooling, Option.map_eq_some_iff] at routeGate
    obtain ⟨answer, refused, kind⟩ := routeGate
    simp only [refused]
    exact cooling_of_kind kind

theorem readyAt_of_layers (enforced : registry.tuning.enforcementEnabled = true)
    (warm : ∀ state ∈ registry.layers route, state.isCooling now = false) :
    registry.ReadyAt route now := by
  have keyPassed : (gateEntry registry.keys route.key
      (HealthState.reserveGate "key" now)).2 = none := by
    rw [← Option.map_eq_none_iff, keyGate_of_free sound free, Option.bind_eq_none_iff]
    intro state found
    exact if_neg (by simp [warm state (mem_layers.2 (.inl found))])
  have routePassed : (gateEntry registry.routes route
      (HealthState.reserveGate "route" now)).2 = none := by
    rw [← Option.map_eq_none_iff, routeGate_of_free sound free, Option.bind_eq_none_iff]
    intro state found
    exact if_neg (by simp [warm state (mem_layers.2 (.inr found))])
  unfold ReadyAt reserve
  simp only [enforced, Bool.not_true, Bool.false_eq_true, if_false, keyPassed, routePassed]
  exact ⟨_, rfl⟩

end Reservation

theorem earliestTemporaryRecovery_singleton (registry : RouteHealthRegistry)
    (route : RouteHealthKey) (now : Instant) :
    registry.earliestTemporaryRecovery [route] now =
      registry.temporaryRecoveryForRoute now route := by
  unfold earliestTemporaryRecovery
  cases forecast : registry.temporaryRecoveryForRoute now route <;> simp [forecast]

theorem RouteRecovery.retryAfter_le_of_rank {first second : RouteRecovery}
    (ranked : first.rank ≤ second.rank) : first.retryAfter ≤ second.retryAfter := by
  rcases Prod.Lex.le_iff.1 ranked with earlier | same
  · exact Nat.le_of_lt earlier
  · exact Nat.le_of_eq same.1

theorem temporaryRecoveryForRoute_eq_some {recovery : RouteRecovery}
    (forecast : registry.temporaryRecoveryForRoute now route = some recovery) :
    recovery ∈ registry.recoveries route now ∧
      ∀ other ∈ registry.recoveries route now, other.retryAfter ≤ recovery.retryAfter := by
  unfold temporaryRecoveryForRoute at forecast
  dsimp only at forecast
  split at forecast
  · cases forecast
  · refine ⟨List.mem_reverse.1 (List.argmax_mem forecast), fun other isOther => ?_⟩
    exact RouteRecovery.retryAfter_le_of_rank
      (List.le_of_mem_argmax (List.mem_reverse.2 isOther) forecast)

theorem exists_temporaryRecoveryForRoute :
    (∃ recovery, registry.temporaryRecoveryForRoute now route = some recovery) ↔
      registry.recoveries route now ≠ [] ∧
        ∀ recovery ∈ registry.recoveries route now, recovery.failureClass.isTemporary := by
  unfold temporaryRecoveryForRoute
  dsimp only
  split
  · next excluded =>
    constructor
    · rintro ⟨_, ⟨⟩⟩
    · rintro ⟨blocked, temporary⟩
      rw [Bool.or_eq_true, List.isEmpty_iff, List.any_eq_true] at excluded
      rcases excluded with empty | ⟨recovery, isRecovery, permanent⟩
      · exact absurd empty blocked
      · simp [temporary recovery isRecovery] at permanent
  · next considered =>
    simp only [Bool.or_eq_true, List.isEmpty_iff, List.any_eq_true, not_or, not_exists, not_and,
      Bool.not_eq_true', Bool.not_eq_false] at considered
    constructor
    · intro _
      exact considered
    · rintro -
      cases forecast : (registry.recoveries route now).reverse.argmax RouteRecovery.rank with
      | none => exact absurd (List.reverse_eq_nil_iff.1 (List.argmax_eq_none.1 forecast)) considered.1
      | some recovery => exact ⟨recovery, rfl⟩

theorem mem_recoveries (free : registry.Free route now) {recovery : RouteRecovery} :
    recovery ∈ registry.recoveries route now ↔
      ∃ state ∈ registry.layers route, ∃ failureClass deadline,
        state.lastFailureClass = some failureClass ∧ state.cooldownUntil = some deadline ∧
          recovery = ⟨failureClass, deadline - now, none⟩ := by
  rw [recoveries, List.mem_filterMap]
  constructor
  · rintro ⟨state, isLayer, found⟩
    exact ⟨state, isLayer, (HealthState.recovery_iff (free state isLayer)).1 found⟩
  · rintro ⟨state, isLayer, found⟩
    exact ⟨state, isLayer, (HealthState.recovery_iff (free state isLayer)).2 found⟩

theorem layer_sound (sound : registry.EveryEntry EntrySound) {state : HealthState}
    (isLayer : state ∈ registry.layers route) : state.Sound := by
  rcases mem_layers.1 isLayer with isKey | isRoute
  · exact sound.2 route.key state isKey
  · exact sound.1 route state isRoute

theorem Free.later {moment : Instant} (free : registry.Free route now) (later : now ≤ moment) :
    registry.Free route moment :=
  fun state isLayer => HealthState.isActive_later (free state isLayer) later

def HasTemporaryClass (state : HealthState) : Prop :=
  state.lastFailureClass.any RouteFailureClass.isTemporary = true

instance (state : HealthState) : Decidable (HasTemporaryClass state) :=
  inferInstanceAs (Decidable (_ = true))

instance (registry : RouteHealthRegistry) (route : RouteHealthKey) (now : Instant) :
    Decidable (registry.Free route now) :=
  inferInstanceAs (Decidable (∀ state ∈ registry.layers route, state.isActive now = false))

structure LeastForecast (registry : RouteHealthRegistry) (routes : List RouteHealthKey)
    (now : Instant) : Prop where
  isForecast : ∀ recovery, registry.earliestTemporaryRecovery routes now = some recovery →
    ∃ route ∈ routes, registry.earliestTemporaryRecovery [route] now = some recovery
  isLeast : ∀ route ∈ routes, ∀ other,
    registry.earliestTemporaryRecovery [route] now = some other →
      ∃ recovery, registry.earliestTemporaryRecovery routes now = some recovery ∧
        recovery.rank ≤ other.rank

structure ForecastAgrees (registry : RouteHealthRegistry) (route : RouteHealthKey)
    (now : Instant) : Prop where
  foretold : ∀ recovery, registry.earliestTemporaryRecovery [route] now = some recovery →
    (∀ moment, now ≤ moment → moment < now + recovery.retryAfter →
        registry.CoolingAt route moment) ∧
      registry.ReadyAt route (now + recovery.retryAfter)
  forecast : registry.CoolingAt route now →
    (∀ state ∈ registry.layers route, state.isCooling now = true → HasTemporaryClass state) →
      ∃ recovery, registry.earliestTemporaryRecovery [route] now = some recovery
  least : ∀ routes, registry.LeastForecast routes now

/-- The running cooldowns are temporary ones, and beside them stands a cooldown that has elapsed and
was not. -/
def Overshadowed (registry : RouteHealthRegistry) (route : RouteHealthKey) (now : Instant) :
    Prop :=
  (∃ state ∈ registry.layers route, state.isCooling now = true) ∧
    (∀ state ∈ registry.layers route, state.isCooling now = true → HasTemporaryClass state) ∧
    ∃ state ∈ registry.layers route, state.cooldownUntil.any (· ≤ now) = true ∧
      ¬ HasTemporaryClass state

instance (registry : RouteHealthRegistry) (route : RouteHealthKey) (now : Instant) :
    Decidable (registry.Overshadowed route now) :=
  inferInstanceAs (Decidable (_ ∧ _ ∧ _))

theorem leastForecast (registry : RouteHealthRegistry) (routes : List RouteHealthKey)
    (now : Instant) : registry.LeastForecast routes now := by
  constructor
  case isForecast =>
    intro recovery forecast
    obtain ⟨route, isRoute, single⟩ := List.mem_filterMap.1 (List.argmin_mem forecast)
    exact ⟨route, isRoute, (earliestTemporaryRecovery_singleton registry route now).trans single⟩
  case isLeast =>
    intro route isRoute other single
    rw [earliestTemporaryRecovery_singleton] at single
    have considered : other ∈ routes.filterMap (registry.temporaryRecoveryForRoute now) :=
      List.mem_filterMap.2 ⟨route, isRoute, single⟩
    cases forecast : registry.earliestTemporaryRecovery routes now with
    | none =>
      have empty := List.argmin_eq_none.1 forecast
      rw [empty] at considered
      cases considered
    | some recovery => exact ⟨recovery, rfl, List.le_of_mem_argmin considered forecast⟩

section Agreement

variable (sound : registry.EveryEntry EntrySound)
  (enforced : registry.tuning.enforcementEnabled = true) (free : registry.Free route now)

include sound enforced free

theorem foretold_of_forecast {recovery : RouteRecovery}
    (forecast : registry.temporaryRecoveryForRoute now route = some recovery) :
    (∀ moment, now ≤ moment → moment < now + recovery.retryAfter →
        registry.CoolingAt route moment) ∧
      registry.ReadyAt route (now + recovery.retryAfter) := by
  obtain ⟨isRecovery, isGreatest⟩ := temporaryRecoveryForRoute_eq_some forecast
  constructor
  · -- the layer that the delay comes from cools until then
    intro moment later before
    obtain ⟨state, isLayer, failureClass, deadline, -, cooled, rfl⟩ :=
      (mem_recoveries free).1 isRecovery
    have running : moment < deadline := by
      have before : moment < now + (deadline - now) := before
      rcases Nat.lt_or_ge now deadline with cooling | past
      · rwa [Nat.add_sub_cancel' (Nat.le_of_lt cooling)] at before
      · rw [Nat.sub_eq_zero_of_le past, Nat.add_zero] at before
        exact absurd before (Nat.not_lt.2 later)
    exact coolingAt_of_layer sound (free.later later) enforced isLayer
      (HealthState.isCooling_iff.2 ⟨deadline, cooled, running⟩)
  · -- and no layer cools any longer
    refine readyAt_of_layers sound (free.later (Nat.le_add_right _ _)) enforced ?_
    intro state isLayer
    rw [Bool.eq_false_iff]
    intro cooling
    obtain ⟨deadline, cooled, running⟩ := HealthState.isCooling_iff.1 cooling
    obtain ⟨failureClass, classed⟩ := Option.isSome_iff_exists.1
      ((layer_sound sound isLayer).classed_of_cooling cooling)
    have bounded : deadline - now ≤ recovery.retryAfter :=
      isGreatest _ ((mem_recoveries free).2
        ⟨state, isLayer, failureClass, deadline, classed, cooled, rfl⟩)
    exact Nat.not_lt.2 (Nat.sub_le_iff_le_add'.1 bounded) running

theorem cooling_layer_of_coolingAt (cooling : registry.CoolingAt route now) :
    ∃ state ∈ registry.layers route, state.isCooling now = true := by
  by_contra warm
  have ready : registry.ReadyAt route now :=
    readyAt_of_layers sound free enforced fun state isLayer =>
      Bool.eq_false_iff.2 fun isCooling => warm ⟨state, isLayer, isCooling⟩
  obtain ⟨_, _, _, refused⟩ := cooling
  obtain ⟨lease, admitted⟩ := ready
  rw [refused] at admitted
  cases admitted

omit enforced in
theorem exists_forecast {state : HealthState} (isLayer : state ∈ registry.layers route)
    (cooling : state.isCooling now = true)
    (running : ∀ state ∈ registry.layers route, state.isCooling now = true →
      HasTemporaryClass state)
    (elapsed : ∀ state ∈ registry.layers route, state.cooldownUntil.any (· ≤ now) = true →
      HasTemporaryClass state) :
    ∃ recovery, registry.temporaryRecoveryForRoute now route = some recovery := by
  rw [exists_temporaryRecoveryForRoute]
  constructor
  · obtain ⟨deadline, cooled, -⟩ := HealthState.isCooling_iff.1 cooling
    obtain ⟨failureClass, classed⟩ := Option.isSome_iff_exists.1
      ((layer_sound sound isLayer).classed_of_cooling cooling)
    exact List.ne_nil_of_mem ((mem_recoveries free).2
      ⟨state, isLayer, failureClass, deadline, classed, cooled, rfl⟩)
  · intro recovery isRecovery
    obtain ⟨other, isOther, failureClass, deadline, classed, cooled, rfl⟩ :=
      (mem_recoveries free).1 isRecovery
    have temporary : HasTemporaryClass other := by
      rcases Nat.lt_or_ge now deadline with later | past
      · exact running other isOther (HealthState.isCooling_iff.2 ⟨deadline, cooled, later⟩)
      · exact elapsed other isOther (by simp [cooled, past])
    simpa [HasTemporaryClass, classed] using temporary

theorem forecastAgrees_iff :
    registry.ForecastAgrees route now ↔ ¬ registry.Overshadowed route now := by
  constructor
  · rintro agrees ⟨⟨state, isLayer, cooling⟩, running, other, isOther, past, permanent⟩
    obtain ⟨recovery, forecast⟩ := agrees.forecast
      (coolingAt_of_layer sound free enforced isLayer cooling) running
    rw [earliestTemporaryRecovery_singleton] at forecast
    have temporary := (exists_temporaryRecoveryForRoute.1 ⟨recovery, forecast⟩).2
    obtain ⟨deadline, cooled⟩ : ∃ deadline, other.cooldownUntil = some deadline := by
      cases cooled : other.cooldownUntil with
      | none => simp [cooled] at past
      | some deadline => exact ⟨deadline, rfl⟩
    obtain ⟨failureClass, classed⟩ := Option.isSome_iff_exists.1
      ((layer_sound sound isOther).classed_of_cooldown (by simp [cooled]))
    refine permanent ?_
    simpa [HasTemporaryClass, classed] using temporary _ ((mem_recoveries free).2
      ⟨other, isOther, failureClass, deadline, classed, cooled, rfl⟩)
  · intro clear
    constructor
    case foretold =>
      intro recovery forecast
      rw [earliestTemporaryRecovery_singleton] at forecast
      exact foretold_of_forecast sound enforced free forecast
    case forecast =>
      intro cooling running
      obtain ⟨state, isLayer, isCooling⟩ := cooling_layer_of_coolingAt sound enforced free cooling
      rw [earliestTemporaryRecovery_singleton]
      refine exists_forecast sound free isLayer isCooling running ?_
      intro other isOther past
      by_contra permanent
      exact clear ⟨⟨state, isLayer, isCooling⟩, running, other, isOther, past, permanent⟩
    case least => exact fun routes => registry.leastForecast routes now

end Agreement

end RouteHealthRegistry

/-- A forecast agrees with the reservations that follow it unless an elapsed cooldown of a permanent
class stands beside the running ones. -/
theorem forecast_agrees_iff (digest : List UInt8 → Nat) (system : HealthSystem)
    (reachable : system.Reachable digest)
    (enforced : system.registry.tuning.enforcementEnabled = true) (route : RouteHealthKey)
    (now : Instant) (free : system.registry.Free route now) :
    system.registry.ForecastAgrees route now ↔ ¬ system.registry.Overshadowed route now :=
  RouteHealthRegistry.forecastAgrees_iff reachable.sound enforced free

theorem forecast_agrees_iff_cooled :
    cooledSystem.registry.ForecastAgrees exampleRoute 0 ↔
      ¬ cooledSystem.registry.Overshadowed exampleRoute 0 :=
  forecast_agrees_iff (fun _ => 0) cooledSystem cooledSystem_reachable (by decide +kernel)
    exampleRoute 0 (by decide +kernel)

def refusedKeySystem : HealthSystem :=
  (HealthSystem.start 16_384 4_096 .default 0).perform (fun _ => 0)
    (.observeKeyFailure exampleKey .credentials none) 0

def shadowedSystem : HealthSystem :=
  refusedKeySystem.perform (fun _ => 0)
    (.observeRouteFailure exampleRoute .transientServer none false) (Duration.fromSecs 3600)

theorem refusedKeySystem_reachable : refusedKeySystem.Reachable (fun _ => 0) :=
  (HealthSystem.start_reachable _ _ _ _ _).advance (.operate _ _ _ (Nat.le_refl 0) trivial)

theorem shadowedSystem_reachable : shadowedSystem.Reachable (fun _ => 0) :=
  refusedKeySystem_reachable.advance (.operate _ _ _ (Nat.zero_le _) trivial)

/-- The key may be probed again and the route cools for seconds, but there is no forecast. -/
theorem elapsed_credentials_hide_recovery :
    shadowedSystem.Reachable (fun _ => 0) ∧
      shadowedSystem.registry.tuning.enforcementEnabled = true ∧
      shadowedSystem.registry.Free exampleRoute (Duration.fromSecs 3600) ∧
      ¬ shadowedSystem.registry.ForecastAgrees exampleRoute (Duration.fromSecs 3600) := by
  have enforced : shadowedSystem.registry.tuning.enforcementEnabled = true := by decide +kernel
  have free : shadowedSystem.registry.Free exampleRoute (Duration.fromSecs 3600) := by
    decide +kernel
  have overshadowed :
      shadowedSystem.registry.Overshadowed exampleRoute (Duration.fromSecs 3600) := by
    decide +kernel
  refine ⟨shadowedSystem_reachable, enforced, free, ?_⟩
  rw [RouteHealthRegistry.forecastAgrees_iff shadowedSystem_reachable.sound enforced free]
  exact not_not.2 overshadowed

end ChatGateway
