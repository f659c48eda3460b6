import ChatGateway.RouteHealth.Registry
import Mathlib.Logic.Relation

set_option autoImplicit false

/-!
# What an operation can do to one entry

Every operation of the registry changes the entry of a route or key through the few effects
below. A permit says which of the effects that touch a half-open lease the operation may have on
the entry; the invariants of an entry are proved once, over the effects.
-/

namespace ChatGateway

structure Permit where
  grant : Option Nat := none
  release : Option Nat := none
  clear : Bool := false
  fail : Bool := false
  retune : Bool := false
  deriving DecidableEq, Repr

structure RecordedFailure (now : Instant) (before after : HealthState) : Prop where
  classed : after.lastFailureClass.isSome
  cooling : after.cooldownUntil.isSome
  observedAt : after.lastFailureAt = some now
  generation : after.halfOpenGeneration = none
  expiresAt : after.halfOpenExpiresAt = none
  exclusiveUntil : after.halfOpenExclusiveUntil = none
  earlyProbe : after.lastEarlyProbeAt = before.lastEarlyProbeAt

inductive EntryEffect (now : Instant) (permit : Permit) :
    Option HealthState → Option HealthState → Prop
  | created : EntryEffect now permit none (some (HealthState.new now))
  | removed (state : HealthState) (idle : state.isActive now = false) :
      EntryEffect now permit (some state) none
  | touched (state : HealthState) : EntryEffect now permit (some state) (some (state.touch now))
  | expired (state : HealthState) (elapsed : state.halfOpenExpiresAt.all (· ≤ now) = true) :
      EntryEffect now permit (some state) (some state.dropHalfOpen)
  | granted (state : HealthState) (generation : Nat) (expiresAt exclusiveUntil : Instant)
      (earlyProbe : Option Instant) (allowed : permit.grant = some generation)
      (classed : state.lastFailureClass.isSome) (idle : state.isActive now = false) :
      EntryEffect now permit (some state)
        (some { state.grantHalfOpen generation expiresAt exclusiveUntil with
          lastEarlyProbeAt := earlyProbe })
  | released (state : HealthState) (generation : Nat) (allowed : permit.release = some generation)
      (held : state.halfOpenGeneration = some generation) :
      EntryEffect now permit (some state) (some state.dropHalfOpen)
  | rearmed (state : HealthState) (generation : Nat) (deadline : Instant)
      (allowed : permit.release = some generation)
      (held : state.halfOpenGeneration = some generation)
      (classed : state.lastFailureClass.isSome) :
      EntryEffect now permit (some state)
        (some { state.dropHalfOpen with cooldownUntil := some deadline })
  | cleared (state : HealthState) (allowed : permit.clear = true) :
      EntryEffect now permit (some state) (some (state.clear now))
  | failed (before after : HealthState) (allowed : permit.fail = true)
      (recorded : RecordedFailure now before after) :
      EntryEffect now permit (some before) (some after)
  | noted (state : HealthState) (failureClass : RouteFailureClass) (status : Option Nat) :
      EntryEffect now permit (some state)
        (some (state.noteRouteCapacity failureClass status now))
  | retuned (state : HealthState) (cooldown expiresAt exclusiveUntil : Instant)
      (allowed : permit.retune = true) :
      EntryEffect now permit (some state)
        (some { state with
          cooldownUntil := RouteHealthRegistry.clampDeadline cooldown state.cooldownUntil
          halfOpenExpiresAt := RouteHealthRegistry.clampDeadline expiresAt state.halfOpenExpiresAt
          halfOpenExclusiveUntil :=
            RouteHealthRegistry.clampDeadline exclusiveUntil state.halfOpenExclusiveUntil })

abbrev EntryEffects (now : Instant) (permit : Permit) :
    Option HealthState → Option HealthState → Prop :=
  Relation.ReflTransGen (EntryEffect now permit)

namespace HealthState

/-- An entry without a failure class carries no health signal, and a recorded lease carries both
of its deadlines. -/
structure Sound (state : HealthState) : Prop where
  clear : state.lastFailureClass = none → state.isClear = true
  leased : state.halfOpenGeneration.isSome →
    state.halfOpenExpiresAt.isSome ∧ state.halfOpenExclusiveUntil.isSome

theorem new_sound (now : Instant) : (new now).Sound := by
  constructor <;> simp [new, isClear]

theorem Sound.classed_of_cooling {state : HealthState} (sound : state.Sound) {now : Instant}
    (cooling : state.isCooling now = true) : state.lastFailureClass.isSome := by
  by_contra missing
  have clear := sound.clear (by simpa using missing)
  simp only [isClear, Bool.and_eq_true, Option.isNone_iff_eq_none] at clear
  simp [isCooling, clear] at cooling

theorem Sound.classed_of_leased {state : HealthState} (sound : state.Sound)
    (leased : state.halfOpenGeneration.isSome) : state.lastFailureClass.isSome := by
  by_contra missing
  have clear := sound.clear (by simpa using missing)
  simp only [isClear, Bool.and_eq_true, Option.isNone_iff_eq_none] at clear
  simp [clear] at leased

theorem Sound.touch {state : HealthState} (sound : state.Sound) {now : Instant} :
    (state.touch now).Sound :=
  ⟨sound.clear, sound.leased⟩

theorem Sound.dropHalfOpen {state : HealthState} (sound : state.Sound) :
    state.dropHalfOpen.Sound := by
  constructor
  · intro missing
    have clear := sound.clear missing
    simp only [isClear, Bool.and_eq_true] at clear
    simp [isClear, HealthState.dropHalfOpen, clear]
  · intro leased
    simp [HealthState.dropHalfOpen] at leased

theorem Sound.isClear_iff {state : HealthState} (sound : state.Sound) :
    state.isClear = true ↔ state.lastFailureClass = none := by
  refine ⟨fun clear => ?_, sound.clear⟩
  simp only [isClear, Bool.and_eq_true, Option.isNone_iff_eq_none] at clear
  simp [clear]

end HealthState

def EntrySound (entry : Option HealthState) : Prop :=
  ∀ state, entry = some state → state.Sound

theorem EntryEffect.sound {now : Instant} {permit : Permit} {before after : Option HealthState}
    (effect : EntryEffect now permit before after) (sound : EntrySound before) :
    EntrySound after := by
  intro state reached
  cases effect with
  | created =>
    cases reached
    exact HealthState.new_sound now
  | removed => cases reached
  | touched state =>
    cases reached
    exact ⟨(sound state rfl).clear, (sound state rfl).leased⟩
  | expired state =>
    cases reached
    exact (sound state rfl).dropHalfOpen
  | granted state generation expiresAt exclusiveUntil earlyProbe allowed classed =>
    cases reached
    refine ⟨fun missing => ?_, fun _ => ⟨rfl, rfl⟩⟩
    simp [HealthState.grantHalfOpen] at missing
    simp [missing] at classed
  | released state =>
    cases reached
    exact (sound state rfl).dropHalfOpen
  | rearmed state generation deadline allowed held classed =>
    cases reached
    refine ⟨fun missing => ?_, fun leased => by simp [HealthState.dropHalfOpen] at leased⟩
    simp [HealthState.dropHalfOpen] at missing
    simp [missing] at classed
  | cleared state =>
    cases reached
    constructor <;> simp [HealthState.clear, HealthState.isClear]
  | failed before after allowed recorded =>
    cases reached
    refine ⟨fun missing => ?_, fun leased => ?_⟩
    · exact absurd recorded.classed (by simp [missing])
    · simp [recorded.generation] at leased
  | noted state =>
    cases reached
    exact ⟨fun missing => by simp [HealthState.noteRouteCapacity] at missing,
      (sound state rfl).leased⟩
  | retuned state cooldown expiresAt exclusiveUntil =>
    cases reached
    refine ⟨fun missing => ?_, fun leased => ?_⟩
    · have clear := (sound state rfl).clear missing
      simpa [HealthState.isClear, RouteHealthRegistry.clampDeadline] using clear
    · simpa [RouteHealthRegistry.clampDeadline] using (sound state rfl).leased leased

end ChatGateway
