import Mathlib.Data.List.Basic
import Mathlib.Logic.Function.Basic

set_option autoImplicit false

/-!
# Numbered slots

Slots are opened in the order of their numbers and closed again, and each open slot has one owner.
A slot is `true` as long as it is open.
-/

namespace ChatGateway

structure Slots {O : Type} (held : O → Option Nat) (slots : List Bool) : Prop where
  isOpen : ∀ owner index, held owner = some index → slots[index]? = some true
  owned : ∀ index, slots[index]? = some true → ∃ owner, held owner = some index
  alone : ∀ first second index, held first = some index → held second = some index → first = second

namespace Slots

variable {O : Type} [DecidableEq O] {held : O → Option Nat} {slots : List Bool} {owner : O}

omit [DecidableEq O] in
theorem empty : Slots (fun _ : O => none) [] :=
  ⟨by simp, by simp, by simp⟩

omit [DecidableEq O] in
theorem lt_length (valid : Slots held slots) {index : Nat} (holds : held owner = some index) :
    index < slots.length :=
  (List.getElem?_eq_some_iff.1 (valid.isOpen owner index holds)).1

theorem acquire (valid : Slots held slots) (free : held owner = none) :
    Slots (Function.update held owner (some slots.length)) (slots ++ [true]) := by
  refine ⟨?_, ?_, ?_⟩
  · intro other index holds
    by_cases same : other = owner
    · subst same
      rw [Function.update_self, Option.some_inj] at holds
      subst holds
      simp
    · rw [Function.update_of_ne same] at holds
      rw [List.getElem?_append_left (valid.lt_length holds)]
      exact valid.isOpen other index holds
  · intro index opened
    rcases Nat.lt_trichotomy index slots.length with below | here | above
    · rw [List.getElem?_append_left below] at opened
      obtain ⟨other, holds⟩ := valid.owned index opened
      have apart : other ≠ owner := by
        rintro rfl
        rw [free] at holds
        cases holds
      exact ⟨other, by rw [Function.update_of_ne apart]; exact holds⟩
    · exact ⟨owner, by rw [Function.update_self, here]⟩
    · rw [List.getElem?_append_right (Nat.le_of_lt above), List.getElem?_singleton,
        if_neg (by omega)] at opened
      cases opened
  · intro first second index one two
    by_cases same : first = owner <;> by_cases again : second = owner
    · rw [same, again]
    · rw [same, Function.update_self, Option.some_inj] at one
      rw [Function.update_of_ne again] at two
      exact absurd (valid.lt_length two) (by omega)
    · rw [again, Function.update_self, Option.some_inj] at two
      rw [Function.update_of_ne same] at one
      exact absurd (valid.lt_length one) (by omega)
    · rw [Function.update_of_ne same] at one
      rw [Function.update_of_ne again] at two
      exact valid.alone first second index one two

theorem release (valid : Slots held slots) {index : Nat} (holds : held owner = some index) :
    Slots (Function.update held owner none) (slots.set index false) := by
  have elsewhere {other : O} {place : Nat}
      (still : Function.update held owner none other = some place) :
      held other = some place ∧ index ≠ place := by
    by_cases same : other = owner
    · rw [same, Function.update_self] at still
      cases still
    · rw [Function.update_of_ne same] at still
      exact ⟨still, fun clash => same (valid.alone other owner index (clash ▸ still) holds)⟩
  refine ⟨?_, ?_, ?_⟩
  · intro other place still
    obtain ⟨known, apart⟩ := elsewhere still
    rw [List.getElem?_set_ne apart]
    exact valid.isOpen other place known
  · intro place opened
    by_cases here : index = place
    · subst here
      rw [List.getElem?_set_self (valid.lt_length holds)] at opened
      cases opened
    · rw [List.getElem?_set_ne here] at opened
      obtain ⟨other, known⟩ := valid.owned place opened
      have apart : other ≠ owner := by
        rintro rfl
        rw [holds] at known
        exact here (Option.some_inj.1 known)
      exact ⟨other, by rw [Function.update_of_ne apart]; exact known⟩
  · intro first second place one two
    exact valid.alone first second place (elsewhere one).1 (elsewhere two).1

omit [DecidableEq O] in
theorem all_closed (valid : Slots held slots) (free : ∀ owner, held owner = none) :
    ∀ index : Nat, slots[index]? ≠ some true := by
  intro index opened
  obtain ⟨owner, holds⟩ := valid.owned index opened
  rw [free owner] at holds
  cases holds

end Slots

end ChatGateway
