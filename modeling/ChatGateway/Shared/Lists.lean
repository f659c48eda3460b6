import Mathlib.Data.List.Nodup
import Mathlib.Data.List.Perm.Basic

set_option autoImplicit false

/-!
# Lists up to their order
-/

namespace ChatGateway

theorem nodup_append_singleton {A : Type} {kept : List A} {item : A} (nodup : kept.Nodup)
    (fresh : item ∉ kept) : (kept ++ [item]).Nodup := by
  simpa using nodup.concat fresh

theorem length_eq_of_nodup {A : Type} {left right : List A} (leftNodup : left.Nodup)
    (rightNodup : right.Nodup) (sameMembers : ∀ a, a ∈ left ↔ a ∈ right) :
    left.length = right.length :=
  ((List.perm_ext_iff_of_nodup leftNodup rightNodup).2 sameMembers).length_eq

theorem min?_eq_of_perm {left right : List Nat}
    (same : left.Perm right) : left.min? = right.min? := by
  ext value
  simp only [List.min?_eq_some_iff, same.mem_iff]

end ChatGateway
