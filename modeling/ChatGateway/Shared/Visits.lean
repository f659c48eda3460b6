import Mathlib.Data.List.Basic

set_option autoImplicit false

/-!
# Visited states

The states in which the actions of a run are taken, and what holds in all of them.
-/

namespace Visits

variable {State Action : Type}

def visits (apply : State → Action → State) : State → List Action → List (State × Action)
  | _, [] => []
  | state, action :: rest => (state, action) :: visits apply (apply state action) rest

variable {apply : State → Action → State}

theorem action_mem {first : State} {actions : List Action} {visit : State × Action}
    (visited : visit ∈ visits apply first actions) : visit.2 ∈ actions := by
  induction actions generalizing first with
  | nil => cases visited
  | cons action rest ih =>
    rcases List.mem_cons.1 visited with rfl | visited
    · exact List.mem_cons_self
    · exact List.mem_cons_of_mem _ (ih visited)

-- What the first state has and every visited action keeps holds in every visited state. The
-- invariant may depend on the time, and stands for all later times too.
theorem invariant {Invariant : Nat → State → Prop} {time : Action → Nat} {last : Nat}
    {first : State} {actions : List Action}
    (later : ∀ {early late state}, early ≤ late → Invariant early state → Invariant late state)
    (preserved : ∀ visit ∈ visits apply first actions, Invariant (time visit.2) visit.1 →
      Invariant (time visit.2) (apply visit.1 visit.2))
    (ordered : (last :: actions.map time).Pairwise (· ≤ ·)) (start : Invariant last first) :
    ∀ visit ∈ visits apply first actions, Invariant (time visit.2) visit.1 := by
  induction actions generalizing first last with
  | nil =>
    intro visit visited
    cases visited
  | cons action rest ih =>
    obtain ⟨ahead, behind⟩ := List.pairwise_cons.1 ordered
    have here : Invariant (time action) first :=
      later (ahead _ (by simp)) start
    intro visit visited
    rcases List.mem_cons.1 visited with rfl | visited
    · exact here
    · exact ih (fun next known => preserved next (List.mem_cons_of_mem _ known)) behind
        (preserved (first, action) List.mem_cons_self here) visit visited

end Visits
