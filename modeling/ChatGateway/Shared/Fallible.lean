import Mathlib.Data.List.Basic

set_option autoImplicit false

/-!
# Fallible computations

How a sequence of computations that may fail succeeds.
-/

namespace Except

variable {E A B : Type}

theorem bind_eq_ok {first : Except E A} {next : A → Except E B} {result : B} :
    (first >>= next) = .ok result ↔ ∃ value, first = .ok value ∧ next value = .ok result := by
  cases first with
  | error failure =>
    constructor
    · intro succeeded
      cases succeeded
    · rintro ⟨value, failed, -⟩
      cases failed
  | ok value =>
    constructor
    · intro succeeded
      exact ⟨value, rfl, succeeded⟩
    · rintro ⟨other, same, succeeded⟩
      cases same
      exact succeeded

theorem map_eq_ok {first : Except E A} {change : A → B} {result : B} :
    first.map change = .ok result ↔ ∃ value, first = .ok value ∧ change value = result := by
  cases first with
  | error failure => simp [Except.map]
  | ok value => simp [Except.map]

theorem foldlM_invariant {S : Type} {step : S → A → Except E S} {Invariant : S → Prop}
    {items : List A} {state final : S}
    (keeps : ∀ state item next, item ∈ items → Invariant state → step state item = .ok next →
      Invariant next)
    (initial : Invariant state) (run : items.foldlM step state = .ok final) :
    Invariant final := by
  induction items generalizing state with
  | nil =>
    cases run
    exact initial
  | cons item rest ih =>
    rw [List.foldlM_cons, bind_eq_ok] at run
    obtain ⟨next, stepped, later⟩ := run
    exact ih (fun state item next member => keeps state item next (List.mem_cons_of_mem _ member))
      (keeps state item next List.mem_cons_self initial stepped) later

theorem foldlM_concat {S : Type} {step : S → A → Except E S} {items : List A} {item : A}
    {state final : S} :
    (items ++ [item]).foldlM step state = .ok final ↔
      ∃ before, items.foldlM step state = .ok before ∧ step before item = .ok final := by
  rw [List.foldlM_append, bind_eq_ok]
  simp

end Except
