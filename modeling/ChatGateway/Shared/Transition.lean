import Mathlib.Logic.Relation

set_option autoImplicit false

/-!
# Labelled transition systems

Runs of a labelled step relation, with a guard on the steps that a run may take.
-/

namespace Transition

variable {State Label : Type}

def Guarded (step : State → Label → State → Prop) (guard : State → Label → Prop)
    (before after : State) : Prop :=
  ∃ label, step before label after ∧ guard before label

abbrev Steps (step : State → Label → State → Prop) (guard : State → Label → Prop) :
    State → State → Prop :=
  Relation.ReflTransGen (Guarded step guard)

def Reachable (initial : State → Prop) (step : State → Label → State → Prop) (state : State) :
    Prop :=
  ∃ first, initial first ∧ Steps step (fun _ _ => True) first state

section Rules

variable {step : State → Label → State → Prop} {guard : State → Label → Prop}

theorem Steps.invariant {first last : State} (run : Steps step guard first last)
    (Invariant : State → Prop)
    (preserved : ∀ before label after, step before label after → guard before label →
      Invariant before → Invariant after)
    (start : Invariant first) : Invariant last := by
  induction run with
  | refl => exact start
  | tail _ taken ih =>
    obtain ⟨label, taken, guarded⟩ := taken
    exact preserved _ label _ taken guarded ih

theorem Steps.weaken {other : State → Label → Prop} {first last : State}
    (run : Steps step guard first last)
    (weaker : ∀ state label, guard state label → other state label) :
    Steps step other first last := by
  induction run with
  | refl => exact .refl
  | tail _ taken ih =>
    obtain ⟨label, taken, guarded⟩ := taken
    exact ih.tail ⟨label, taken, weaker _ _ guarded⟩

theorem Reachable.invariant {initial : State → Prop} {state : State}
    (reachable : Reachable initial step state) (Invariant : State → Prop)
    (start : ∀ first, initial first → Invariant first)
    (preserved : ∀ before label after, step before label after →
      Invariant before → Invariant after) : Invariant state := by
  obtain ⟨first, started, run⟩ := reachable
  exact run.invariant Invariant (fun _ label _ taken _ => preserved _ label _ taken) (start first started)

theorem Reachable.extend {initial : State → Prop} {first last : State}
    (reachable : Reachable initial step first) (run : Steps step guard first last) :
    Reachable initial step last := by
  obtain ⟨origin, started, past⟩ := reachable
  exact ⟨origin, started, past.trans (run.weaken fun _ _ _ => trivial)⟩

theorem Reachable.advance {initial : State → Prop} {before after : State} {label : Label}
    (reachable : Reachable initial step before) (taken : step before label after) :
    Reachable initial step after := by
  obtain ⟨origin, started, past⟩ := reachable
  exact ⟨origin, started, past.tail ⟨label, taken, trivial⟩⟩

end Rules

end Transition
