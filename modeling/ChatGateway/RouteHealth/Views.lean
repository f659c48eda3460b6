import ChatGateway.RouteHealth.System

set_option autoImplicit false

/-!
# What a reservation sees of an entry

A reservation answers by the cooldown of an entry and by the half-open lease that is still alive.
Registries that show the same views give the same kinds of answers from then on.
-/

namespace ChatGateway

inductive AnswerKind where
  | ready (halfOpen : Bool)
  | cooling (retryAfter : Duration)
  | halfOpenBusy
  deriving DecidableEq, Repr

def RouteAvailability.kind {T : Type} (halfOpen : T → Bool) : RouteAvailability T → AnswerKind
  | .ready lease => .ready (halfOpen lease)
  | .cooling _ retryAfter _ => .cooling retryAfter
  | .halfOpenBusy _ _ _ => .halfOpenBusy

def answerKind (answer : ReserveAnswer) : Except String AnswerKind :=
  answer.map (RouteAvailability.kind HealthLease.halfOpen)

structure LeaseView where
  generation : Option Nat
  expiresAt : Option Instant
  exclusiveUntil : Option Instant
  deriving DecidableEq, Repr

structure EntryView where
  cooldownUntil : Option Instant
  lease : Option LeaseView
  deriving DecidableEq, Repr

namespace HealthState

def view (now : Instant) (state : HealthState) : EntryView where
  cooldownUntil := state.cooldownUntil
  lease :=
    if state.isActive now then
      some ⟨state.halfOpenGeneration, state.halfOpenExpiresAt, state.halfOpenExclusiveUntil⟩
    else none

theorem Sound.classed_of_cooldown {state : HealthState} (sound : state.Sound)
    (cooled : state.cooldownUntil.isSome) : state.lastFailureClass.isSome := by
  by_contra missing
  have clear := sound.clear (by simpa using missing)
  simp only [isClear, Bool.and_eq_true, Option.isNone_iff_eq_none] at clear
  simp [clear] at cooled

end HealthState

namespace EntryView

def missing : EntryView where
  cooldownUntil := none
  lease := none

def refusal (now : Instant) (view : EntryView) : Option AnswerKind :=
  if view.cooldownUntil.any (now < ·) then
    some (.cooling ((view.cooldownUntil.map (· - now)).getD 0))
  else if view.lease.any fun lease => lease.exclusiveUntil.any (now < ·) then some .halfOpenBusy
  else none

def grantable (now : Instant) (view : EntryView) : Bool :=
  view.cooldownUntil.any (· ≤ now) && view.lease.isNone

end EntryView

def entryView (now : Instant) (entry : Option HealthState) : EntryView :=
  (entry.map (HealthState.view now)).getD .missing

section Gates

variable {now : Instant} {state : HealthState}

@[simp] theorem HealthState.touch_view (state : HealthState) (now moment : Instant) :
    (state.touch now).view moment = state.view moment := rfl

theorem HealthState.view_refusal (state : HealthState) (now : Instant) :
    (state.view now).refusal now =
      if state.isCooling now then some (.cooling (state.retryAfter now))
      else if state.isActive now && state.halfOpenExclusiveUntil.any (now < ·) then
        some .halfOpenBusy
      else none := by
  unfold EntryView.refusal HealthState.view HealthState.isCooling HealthState.retryAfter
  cases state.isActive now <;> rfl

theorem HealthState.Sound.isActive_eq (sound : state.Sound) (held : state.halfOpenGeneration.isSome) :
    state.isActive now = !state.halfOpenExpiresAt.all (· ≤ now) := by
  obtain ⟨expiresAt, expiry⟩ := Option.isSome_iff_exists.mp (sound.leased held).1
  rw [HealthState.isActive, held, expiry, Option.any_some, Option.all_some, Bool.true_and,
    ← decide_not]
  exact decide_eq_decide.mpr Nat.not_le.symm

-- The gate of `reserve`, by the cooldown and the lease of the entry.
theorem HealthState.reserveGate_cases (state : HealthState) (subject : String) (now : Instant) :
    (state.isCooling now = true ∧ state.reserveGate subject now =
        (state.touch now, some ((state.touch now).coolingRefusal subject now))) ∨
      (state.isCooling now = false ∧ state.halfOpenGeneration.isSome ∧
        state.halfOpenExpiresAt.all (· ≤ now) = true ∧
        state.reserveGate subject now = ((state.touch now).dropHalfOpen, none)) ∨
      (state.isCooling now = false ∧ state.halfOpenGeneration.isSome ∧
        state.halfOpenExpiresAt.all (· ≤ now) = false ∧
        state.halfOpenExclusiveUntil.any (now < ·) = true ∧ state.reserveGate subject now =
          (state.touch now, some ((state.touch now).halfOpenRefusal subject))) ∨
      (state.isCooling now = false ∧
        (state.halfOpenGeneration = none ∨ state.halfOpenExpiresAt.all (· ≤ now) = false ∧
          state.halfOpenExclusiveUntil.any (now < ·) = false) ∧
        state.reserveGate subject now = (state.touch now, none)) := by
  have leased : (state.touch now).halfOpenGeneration = state.halfOpenGeneration := rfl
  have expiry : (state.touch now).halfOpenExpiresAt = state.halfOpenExpiresAt := rfl
  have window : (state.touch now).halfOpenExclusiveUntil = state.halfOpenExclusiveUntil := rfl
  unfold HealthState.reserveGate
  simp only [HealthState.touch_isCooling, leased, expiry, window]
  cases state.isCooling now <;> cases state.halfOpenGeneration <;>
    cases state.halfOpenExpiresAt.all (· ≤ now) <;>
    cases state.halfOpenExclusiveUntil.any (now < ·) <;> simp

-- The gate of `reserve` decides by the view alone and leaves it as it is.
theorem HealthState.Sound.reserveGate (sound : state.Sound) (now : Instant) (subject : String) :
    (state.reserveGate subject now).1.view now = state.view now ∧
      (state.reserveGate subject now).1.Sound ∧
      (state.reserveGate subject now).2.map answerKind =
        ((state.view now).refusal now).map Except.ok := by
  rw [HealthState.view_refusal]
  rcases state.reserveGate_cases subject now with
    ⟨cooling, gate⟩ | ⟨warm, held, expired, gate⟩ | ⟨warm, held, alive, exclusive, gate⟩ |
      ⟨warm, admitted, gate⟩
  · obtain ⟨failureClass, classed⟩ := Option.isSome_iff_exists.mp (sound.classed_of_cooling cooling)
    rw [gate]
    refine ⟨rfl, sound.touch, ?_⟩
    simp [cooling, HealthState.coolingRefusal, HealthState.refusal, HealthState.touch, classed,
      answerKind, Except.map, RouteAvailability.kind, HealthState.retryAfter]
  · have dead : state.isActive now = false := by simp [sound.isActive_eq held, expired]
    rw [gate]
    refine ⟨?_, sound.touch.dropHalfOpen, by simp [warm, dead]⟩
    have dropped : (state.touch now).dropHalfOpen.isActive now = false := rfl
    simp only [HealthState.view, dead, dropped]
    rfl
  · obtain ⟨failureClass, classed⟩ := Option.isSome_iff_exists.mp (sound.classed_of_leased held)
    rw [gate]
    refine ⟨rfl, sound.touch, ?_⟩
    simp [warm, sound.isActive_eq held, alive, exclusive, HealthState.halfOpenRefusal,
      HealthState.refusal, HealthState.touch, classed, answerKind, Except.map,
      RouteAvailability.kind]
  · rw [gate]
    refine ⟨rfl, sound.touch, ?_⟩
    rcases admitted with unleased | ⟨-, opened⟩
    · simp [warm, HealthState.isActive, unleased]
    · simp [warm, opened]

theorem HealthState.Sound.canReserve_eq (sound : state.Sound) :
    state.canReserve now = (state.view now).grantable now := by
  unfold HealthState.canReserve EntryView.grantable HealthState.view
  cases cooled : state.cooldownUntil with
  | none => simp
  | some deadline =>
    have classed := sound.classed_of_cooldown (by simp [cooled])
    cases held : state.halfOpenGeneration with
    | none => simp [classed, HealthState.isActive, held]
    | some generation =>
      rw [sound.isActive_eq (by simp [held]), classed]
      cases state.halfOpenExpiresAt.all (· ≤ now) <;> simp

end Gates

structure EntryAlike (now : Instant) (first second : Option HealthState) : Prop where
  firstSound : EntrySound first
  secondSound : EntrySound second
  view : entryView now first = entryView now second

theorem EntryAlike.canReserve {now : Instant} {first second : Option HealthState}
    (alike : EntryAlike now first second) :
    first.any (·.canReserve now) = second.any (·.canReserve now) := by
  have byView : ∀ entry, EntrySound entry →
      entry.any (·.canReserve now) = (entryView now entry).grantable now := by
    intro entry sound
    cases entry with
    | none => rfl
    | some state => simpa [entryView] using (sound state rfl).canReserve_eq
  rw [byView first alike.firstSound, byView second alike.secondSound, alike.view]

theorem EntryAlike.gate {now : Instant} {first second : Option HealthState}
    (alike : EntryAlike now first second) (subject : String) :
    EntryAlike now (first.map fun state => (state.reserveGate subject now).1)
        (second.map fun state => (state.reserveGate subject now).1) ∧
      (first.bind fun state => (state.reserveGate subject now).2).map answerKind =
        (second.bind fun state => (state.reserveGate subject now).2).map answerKind := by
  have byView : ∀ entry, EntrySound entry →
      EntrySound (entry.map fun state => (state.reserveGate subject now).1) ∧
        entryView now (entry.map fun state => (state.reserveGate subject now).1) =
          entryView now entry ∧
        (entry.bind fun state => (state.reserveGate subject now).2).map answerKind =
          ((entryView now entry).refusal now).map Except.ok := by
    intro entry sound
    cases entry with
    | none => exact ⟨sound, rfl, rfl⟩
    | some state =>
      obtain ⟨view, kept, answer⟩ := (sound state rfl).reserveGate now subject
      refine ⟨fun left reached => ?_, ?_, ?_⟩
      · cases reached
        exact kept
      · simpa [entryView] using view
      · simpa [entryView] using answer
  obtain ⟨firstSound, firstView, firstAnswer⟩ := byView first alike.firstSound
  obtain ⟨secondSound, secondView, secondAnswer⟩ := byView second alike.secondSound
  refine ⟨⟨firstSound, secondSound, ?_⟩, ?_⟩
  · rw [firstView, secondView, alike.view]
  · rw [firstAnswer, secondAnswer, alike.view]

theorem EntryAlike.touch {now : Instant} {first second : Option HealthState}
    (alike : EntryAlike now first second) :
    EntryAlike now (first.map (·.touch now)) (second.map (·.touch now)) := by
  have sound : ∀ entry, EntrySound entry → EntrySound (entry.map (·.touch now)) := by
    intro entry held state reached
    obtain ⟨old, rfl, rfl⟩ := Option.map_eq_some_iff.mp reached
    exact (held old rfl).touch
  have view : ∀ entry, entryView now (entry.map (·.touch now)) = entryView now entry := by
    intro entry
    cases entry <;> rfl
  exact ⟨sound first alike.firstSound, sound second alike.secondSound,
    by rw [view, view, alike.view]⟩

theorem EntryAlike.grant {now : Instant} {first second : Option HealthState}
    (alike : EntryAlike now first second) (allowed : first.any (·.canReserve now))
    (generation : Nat) (expiresAt exclusiveUntil : Instant) :
    EntryAlike now
      (first.map fun state => (state.grantHalfOpen generation expiresAt exclusiveUntil).touch now)
      (second.map fun state =>
        (state.grantHalfOpen generation expiresAt exclusiveUntil).touch now) := by
  have reservable : second.any (·.canReserve now) := alike.canReserve ▸ allowed
  have sound : ∀ entry : Option HealthState, entry.any (·.canReserve now) →
      EntrySound (entry.map fun state =>
        (state.grantHalfOpen generation expiresAt exclusiveUntil).touch now) := by
    intro entry allowed state reached
    obtain ⟨old, rfl, rfl⟩ := Option.map_eq_some_iff.mp reached
    simp only [Option.any_some, HealthState.canReserve, Bool.and_eq_true] at allowed
    refine ⟨fun missing => ?_, fun _ => ⟨rfl, rfl⟩⟩
    have classed : old.lastFailureClass = none := missing
    simp [classed] at allowed
  obtain ⟨old, rfl, -⟩ := (Option.any_eq_true _ _).mp allowed
  obtain ⟨other, rfl, -⟩ := (Option.any_eq_true _ _).mp reservable
  refine ⟨sound _ allowed, sound _ reservable, ?_⟩
  have cooldown : old.cooldownUntil = other.cooldownUntil :=
    congrArg EntryView.cooldownUntil alike.view
  simp [entryView, HealthState.view, HealthState.grantHalfOpen, HealthState.touch,
    HealthState.isActive, cooldown]

namespace RouteHealthRegistry

structure Alike (now : Instant) (first second : RouteHealthRegistry) : Prop where
  routes : ∀ route, EntryAlike now (first.routes.lookup route) (second.routes.lookup route)
  keys : ∀ key, EntryAlike now (first.keys.lookup key) (second.keys.lookup key)
  tuning : first.tuning = second.tuning
  nextGeneration : first.nextGeneration = second.nextGeneration

variable {now : Instant} {first second : RouteHealthRegistry}

theorem alike_modify {K : Type} [DecidableEq K] {before after : Table K HealthState}
    (alike : ∀ key, EntryAlike now (before.lookup key) (after.lookup key)) (key : K)
    (change : HealthState → HealthState)
    (changed : EntryAlike now ((before.lookup key).map change) ((after.lookup key).map change))
    (other : K) :
    EntryAlike now ((before.modify key change).lookup other)
      ((after.modify key change).lookup other) := by
  rw [Table.lookup_modify, Table.lookup_modify]
  split
  next same =>
    rw [same]
    exact changed
  next => exact alike other

theorem Alike.reserveKey (alike : Alike now first second) (key : KeyHealthKey) :
    (first.reserveExpiredHalfOpenKey key now).2 = (second.reserveExpiredHalfOpenKey key now).2 ∧
      Alike now (first.reserveExpiredHalfOpenKey key now).1
        (second.reserveExpiredHalfOpenKey key now).1 := by
  have same := (alike.keys key).canReserve
  unfold reserveExpiredHalfOpenKey
  rw [← same]
  split
  next allowed =>
    have bumped : first.bumpNextGeneration.nextGeneration =
        second.bumpNextGeneration.nextGeneration := by
      simp [bumpNextGeneration, alike.nextGeneration]
    have tuning : first.bumpNextGeneration.tuning = second.bumpNextGeneration.tuning := alike.tuning
    refine ⟨congrArg some bumped, alike.routes, ?_, alike.tuning, bumped⟩
    simp only [bumped, tuning]
    exact alike_modify alike.keys key _ ((alike.keys key).grant allowed _ _ _)
  next => exact ⟨rfl, alike⟩

theorem Alike.reserveRoute (alike : Alike now first second) (route : RouteHealthKey) :
    (first.reserveExpiredHalfOpenRoute route now).2 =
        (second.reserveExpiredHalfOpenRoute route now).2 ∧
      Alike now (first.reserveExpiredHalfOpenRoute route now).1
        (second.reserveExpiredHalfOpenRoute route now).1 := by
  have same := (alike.routes route).canReserve
  unfold reserveExpiredHalfOpenRoute
  rw [← same]
  split
  next allowed =>
    have bumped : first.bumpNextGeneration.nextGeneration =
        second.bumpNextGeneration.nextGeneration := by
      simp [bumpNextGeneration, alike.nextGeneration]
    have tuning : first.bumpNextGeneration.tuning = second.bumpNextGeneration.tuning := alike.tuning
    refine ⟨congrArg some bumped, ?_, alike.keys, alike.tuning, bumped⟩
    simp only [bumped, tuning]
    exact alike_modify alike.routes route _ ((alike.routes route).grant allowed _ _ _)
  next => exact ⟨rfl, alike⟩

theorem alike_gateEntry {K : Type} [DecidableEq K] {before after : Table K HealthState}
    (alike : ∀ key, EntryAlike now (before.lookup key) (after.lookup key)) (key : K)
    (subject : String) :
    (∀ other, EntryAlike now
        ((gateEntry before key (HealthState.reserveGate subject now)).1.lookup other)
        ((gateEntry after key (HealthState.reserveGate subject now)).1.lookup other)) ∧
      (gateEntry before key (HealthState.reserveGate subject now)).2.map answerKind =
        (gateEntry after key (HealthState.reserveGate subject now)).2.map answerKind := by
  refine ⟨fun other => ?_, ?_⟩
  · rw [gateEntry_lookup, gateEntry_lookup]
    split
    · exact ((alike other).gate subject).1
    · exact alike other
  · rw [gateEntry_refusal, gateEntry_refusal]
    exact ((alike key).gate subject).2

theorem Alike.passthroughAdmission (alike : Alike now first second) (route : RouteHealthKey)
    (key : KeyHealthKey) :
    answerKind (first.passthroughAdmission route key now).2 =
        answerKind (second.passthroughAdmission route key now).2 ∧
      Alike now (first.passthroughAdmission route key now).1
        (second.passthroughAdmission route key now).1 :=
  ⟨rfl, alike_modify alike.routes route _ (alike.routes route).touch,
    alike_modify alike.keys key _ (alike.keys key).touch, alike.tuning, alike.nextGeneration⟩

theorem Alike.admitReserved (alike : Alike now first second) (route : RouteHealthKey)
    (key : KeyHealthKey) :
    answerKind (first.admitReserved route key now).2 =
        answerKind (second.admitReserved route key now).2 ∧
      Alike now (first.admitReserved route key now).1 (second.admitReserved route key now).1 := by
  obtain ⟨keyGrant, keyAlike⟩ := alike.reserveKey key
  obtain ⟨routeGrant, routeAlike⟩ := keyAlike.reserveRoute route
  refine ⟨?_, routeAlike⟩
  simp [RouteHealthRegistry.admitReserved, answerKind, Except.map, RouteAvailability.kind, keyGrant,
    routeGrant]

theorem Alike.reserve (alike : Alike now first second) (route : RouteHealthKey)
    (key : KeyHealthKey) :
    answerKind (first.reserve route key now).2 = answerKind (second.reserve route key now).2 ∧
      Alike now (first.reserve route key now).1 (second.reserve route key now).1 := by
  obtain ⟨keys, keyAnswer⟩ := alike_gateEntry alike.keys key "key"
  obtain ⟨routes, routeAnswer⟩ := alike_gateEntry alike.routes route "route"
  have enforcement : second.tuning.enforcementEnabled = first.tuning.enforcementEnabled := by
    rw [alike.tuning]
  unfold RouteHealthRegistry.reserve
  rw [enforcement]
  split
  next => exact alike.passthroughAdmission route key
  next =>
    cases firstKey : (gateEntry first.keys key (HealthState.reserveGate "key" now)).2 <;>
      cases secondKey : (gateEntry second.keys key (HealthState.reserveGate "key" now)).2 <;>
      simp only [firstKey, secondKey, Option.map_none, Option.map_some, reduceCtorEq,
        Option.some.injEq] at keyAnswer ⊢
    · cases firstRoute : (gateEntry first.routes route (HealthState.reserveGate "route" now)).2 <;>
        cases secondRoute :
          (gateEntry second.routes route (HealthState.reserveGate "route" now)).2 <;>
        simp only [firstRoute, secondRoute, Option.map_none, Option.map_some, reduceCtorEq,
          Option.some.injEq] at routeAnswer ⊢
      · refine Alike.admitReserved ?_ route key
        exact ⟨routes, keys, alike.tuning, alike.nextGeneration⟩
      · exact ⟨routeAnswer, routes, keys, alike.tuning, alike.nextGeneration⟩
    · exact ⟨keyAnswer, alike.routes, keys, alike.tuning, alike.nextGeneration⟩

def reserveAll (now : Instant) : List (RouteHealthKey × KeyHealthKey) → RouteHealthRegistry →
    List (Except String AnswerKind)
  | [], _ => []
  | (route, key) :: requests, registry =>
    answerKind (registry.reserve route key now).2 ::
      reserveAll now requests (registry.reserve route key now).1

theorem Alike.reserveAll (alike : Alike now first second)
    (requests : List (RouteHealthKey × KeyHealthKey)) :
    first.reserveAll now requests = second.reserveAll now requests := by
  induction requests generalizing first second with
  | nil => rfl
  | cons request requests ih =>
    obtain ⟨answer, next⟩ := alike.reserve request.1 request.2
    simp only [RouteHealthRegistry.reserveAll, answer, ih next]

end RouteHealthRegistry

end ChatGateway
