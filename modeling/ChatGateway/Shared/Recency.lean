import Mathlib.Data.List.Dedup
import Mathlib.Data.List.DropRight

set_option autoImplicit false

/-!
# Recency

The distinct keys of a history of uses, in the order of their last use. A queue that moves a used
key to its end and forgets from its front is an end of this list.
-/

namespace Recency

variable {K : Type} [DecidableEq K]

def keys (uses : List K) : List K :=
  uses.dedup

def latest (limit : Nat) (uses : List K) : List K :=
  (keys uses).rtake limit

theorem nodup_keys (uses : List K) : (keys uses).Nodup :=
  List.nodup_dedup uses

@[simp] theorem mem_keys {uses : List K} {key : K} : key ∈ keys uses ↔ key ∈ uses :=
  List.mem_dedup

theorem keys_append_singleton (uses : List K) (key : K) :
    keys (uses ++ [key]) = (keys uses).filter (fun other => other ≠ key) ++ [key] := by
  induction uses with
  | nil => rfl
  | cons use rest ih =>
    simp only [keys] at ih ⊢
    by_cases again : use ∈ rest
    · rw [List.cons_append, List.dedup_cons_of_mem (List.mem_append_left _ again),
        List.dedup_cons_of_mem again, ih]
    · rw [List.dedup_cons_of_notMem again]
      by_cases same : use = key
      · rw [List.cons_append, List.dedup_cons_of_mem (by simp [same]),
          List.filter_cons_of_neg (by simp [same]), ih]
      · rw [List.cons_append, List.dedup_cons_of_notMem (by simp [again, same]),
          List.filter_cons_of_pos (by simp [same]), ih, List.cons_append]

def Superseded (limit : Nat) (uses : List K) (key : K) : Prop :=
  ∃ before after, keys uses = before ++ key :: after ∧ limit ≤ after.length

theorem Superseded.use {limit : Nat} {uses : List K} {key other : K}
    (superseded : Superseded limit uses key) (apart : key ≠ other) :
    Superseded limit (uses ++ [other]) key := by
  obtain ⟨before, after, listed, enough⟩ := superseded
  refine ⟨before.filter (fun known => known ≠ other),
    after.filter (fun known => known ≠ other) ++ [other], ?_, ?_⟩
  · rw [keys_append_singleton, listed, List.filter_append,
      List.filter_cons_of_pos (by simpa using apart), List.append_assoc, List.cons_append]
  · have distinct : after.Nodup := by
      have nodup := nodup_keys uses
      rw [listed] at nodup
      exact (List.nodup_cons.1 (List.nodup_append.1 nodup).2.1).2
    have fewer := List.le_length_erase (l := after) (a := other)
    rw [distinct.erase_eq_filter] at fewer
    have kept : after.filter (fun known => known != other) =
        after.filter (fun known => known ≠ other) :=
      List.filter_congr fun known _ => by simp [bne, BEq.beq]
    rw [kept] at fewer
    simp only [List.length_append, List.length_singleton]
    omega

-- The end of the list of keys that has at least so many keys holds the latest ones.
theorem latest_subset {limit : Nat} {uses before after : List K}
    (split : keys uses = before ++ after) (enough : limit ≤ after.length) : latest limit uses ⊆ after := by
  intro key known
  have skipped : (before ++ after).length - limit = before.length + (after.length - limit) := by
    rw [List.length_append]
    omega
  rw [latest, List.rtake, split, skipped, List.drop_length_add_append] at known
  exact List.mem_of_mem_drop known

theorem Superseded.notMem_latest {limit : Nat} {uses : List K} {key : K}
    (superseded : Superseded limit uses key) : key ∉ latest limit uses := by
  obtain ⟨before, after, listed, enough⟩ := superseded
  have split : keys uses = (before ++ [key]) ++ after := by simp [listed]
  intro known
  have nodup := nodup_keys uses
  rw [split] at nodup
  exact (List.nodup_append.1 nodup).2.2 key (by simp) key (latest_subset split enough known) rfl

theorem mem_latest {limit : Nat} {uses before after : List K} (split : keys uses = before ++ after)
    (fits : after.length ≤ limit) {key : K} (known : key ∈ after) : key ∈ latest limit uses := by
  have kept : (before ++ after).length - limit ≤ before.length := by
    rw [List.length_append]
    omega
  rw [latest, List.rtake, split, List.drop_append_of_le_length kept]
  exact List.mem_append_right _ known

-- A key that is used before a key of an end of the list, and is not of that end, precedes it.
theorem mem_after_of_precedes {uses before after : List K} (split : keys uses = before ++ after)
    {first second : K} (precedes : [first, second].Sublist (keys uses)) (known : first ∉ before) :
    second ∈ after := by
  rw [split] at precedes
  obtain ⟨left, right, parts, past, rest⟩ := List.sublist_append_iff.1 precedes
  cases left with
  | nil =>
    rw [List.nil_append] at parts
    exact rest.subset (by simp [← parts])
  | cons head tail =>
    have same : first = head := (List.cons.inj parts).1
    exact absurd (past.subset (by simp [same])) known

end Recency
