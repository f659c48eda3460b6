import Mathlib.Algebra.GroupWithZero.Nat
import Mathlib.Data.List.Nodup
import Mathlib.Data.Nat.Count

set_option autoImplicit false

/-!
# Weighted rotation

A cursor is reduced modulo the sum of the shares and walks them, so that an item with a share of `n`
owns `n` of the remainders in a row.
-/

namespace Rotation

variable {A : Type}

def total (shares : List (A × Nat)) : Nat := (shares.map (·.2)).sum

def walk : List (A × Nat) → Nat → Option A
  | [], _ => none
  | (item, share) :: rest, bucket =>
    if bucket < share then some item else walk rest (bucket - share)

@[simp] theorem total_cons (item : A) (share : Nat) (rest : List (A × Nat)) :
    total ((item, share) :: rest) = share + total rest := rfl

theorem walk_isSome {shares : List (A × Nat)} {bucket : Nat} (below : bucket < total shares) :
    ∃ item, walk shares bucket = some item := by
  induction shares generalizing bucket with
  | nil => cases below
  | cons head rest ih =>
    obtain ⟨item, share⟩ := head
    rw [total_cons] at below
    by_cases here : bucket < share
    · exact ⟨item, if_pos here⟩
    · obtain ⟨other, found⟩ := @ih (bucket - share) (by omega)
      exact ⟨other, by rw [walk, if_neg here, found]⟩

theorem walk_mem {shares : List (A × Nat)} {bucket : Nat} {item : A}
    (found : walk shares bucket = some item) : item ∈ shares.map (·.1) := by
  induction shares generalizing bucket with
  | nil => cases found
  | cons head rest ih =>
    rw [walk] at found
    split at found
    · exact List.mem_cons.2 (.inl (Option.some.inj found).symm)
    · exact List.mem_cons_of_mem _ (ih found)

theorem walk_map {B : Type} (rename : A → B) (shares : List (A × Nat)) (bucket : Nat) :
    walk (shares.map fun share => (rename share.1, share.2)) bucket =
      (walk shares bucket).map rename := by
  induction shares generalizing bucket with
  | nil => rfl
  | cons head rest ih =>
    rw [List.map_cons, walk, walk, ih]
    split <;> rfl

variable [DecidableEq A]

theorem count_walk {shares : List (A × Nat)} (distinct : (shares.map (·.1)).Nodup) {item : A}
    {share : Nat} (member : (item, share) ∈ shares) :
    Nat.count (fun bucket => walk shares bucket = some item) (total shares) = share := by
  induction shares with
  | nil => cases member
  | cons head rest ih =>
    obtain ⟨first, width⟩ := head
    rw [List.map_cons, List.nodup_cons] at distinct
    have before (bucket : Nat) (inside : bucket < width) :
        walk ((first, width) :: rest) bucket = some first := if_pos inside
    have behind (bucket : Nat) :
        walk ((first, width) :: rest) (width + bucket) = walk rest bucket := by
      rw [walk, if_neg (by omega), Nat.add_sub_cancel_left]
    rw [total_cons, Nat.count_add]
    simp only [behind]
    rcases List.mem_cons.1 member with same | later
    · cases same
      have own : Nat.count (fun bucket => walk ((item, share) :: rest) bucket = some item) share =
          share := Nat.count_of_forall fun bucket inside => before bucket inside
      have others : Nat.count (fun bucket => walk rest bucket = some item) (total rest) = 0 :=
        Nat.count_of_forall_not fun bucket _ found => distinct.1 (walk_mem found)
      rw [own, others, Nat.add_zero]
    · have apart : first ≠ item := fun same =>
        distinct.1 (same ▸ List.mem_map.2 ⟨_, later, rfl⟩)
      have none : Nat.count (fun bucket => walk ((first, width) :: rest) bucket = some item)
          width = 0 :=
        Nat.count_of_forall_not fun bucket inside found =>
          apart (Option.some.inj ((before bucket inside).symm.trans found))
      rw [none, ih distinct.2 later, Nat.zero_add]

omit [DecidableEq A] in
theorem count_congr {first second : Nat → Prop} [DecidablePred first] [DecidablePred second]
    {bound : Nat} (same : ∀ cursor < bound, first cursor ↔ second cursor) :
    Nat.count first bound = Nat.count second bound := by
  rw [Nat.count_eq_card_filter_range, Nat.count_eq_card_filter_range]
  exact congrArg Finset.card
    (Finset.filter_congr fun cursor inside => same cursor (Finset.mem_range.1 inside))

omit [DecidableEq A] in
theorem count_period (holds : Nat → Prop) [DecidablePred holds] {period : Nat}
    (periodic : ∀ cursor, holds (period + cursor) ↔ holds cursor) (start : Nat) :
    Nat.count (fun cursor => holds (start + cursor)) period = Nat.count holds period := by
  have ahead := Nat.count_add (p := holds) start period
  have behind := Nat.count_add (p := holds) period start
  rw [Nat.add_comm period start, count_congr fun cursor _ => periodic cursor] at behind
  omega

theorem count_period_walk {shares : List (A × Nat)} (distinct : (shares.map (·.1)).Nodup)
    {item : A} {share : Nat} (member : (item, share) ∈ shares) (start : Nat) :
    Nat.count (fun cursor => walk shares ((start + cursor) % total shares) = some item)
      (total shares) = share := by
  rw [count_period (fun cursor => walk shares (cursor % total shares) = some item)
    (fun cursor => by rw [Nat.add_mod_left]) start, ← count_walk distinct member]
  exact count_congr fun bucket inside => by rw [Nat.mod_eq_of_lt inside]

end Rotation
