import ChatGateway.Shared.SortedSet

set_option autoImplicit false

/-!
# Windows of sorted sets

How many members of a sorted set, and how much weight of them, lie above a score, and that neither
grows while members only leave the set.
-/

namespace Volatile

section Thinning

variable {K V : Type}

structure Thinned (before after : Volatile K V) : Prop where
  sublist : List.Sublist after.entries.entries before.entries.entries
  deadline : after.entries.entries ≠ [] → after.expiresAt = before.expiresAt

theorem Thinned.refl (key : Volatile K V) : Thinned key key where
  sublist := .refl _
  deadline _ := rfl

theorem Thinned.trans {first second third : Volatile K V} (earlier : Thinned first second)
    (later : Thinned second third) : Thinned first third where
  sublist := later.sublist.trans earlier.sublist
  deadline held := by
    have before : second.entries.entries ≠ [] := by
      intro empty
      have shorter := later.sublist
      rw [empty, List.sublist_nil] at shorter
      exact held shorter
    rw [later.deadline held, earlier.deadline before]

theorem thinned_live (now : Int) (key : Volatile K V) : Thinned key (key.live now) := by
  rcases key.live_cases now with same | ⟨gone, -⟩
  · rw [same]
    exact .refl key
  · rw [gone]
    exact ⟨List.nil_sublist _, fun held => absurd rfl held⟩

theorem thinned_update (key : Volatile K V) {change : Table K V → Table K V}
    (fewer : List.Sublist (change key.entries).entries key.entries.entries) :
    Thinned key (key.update change) where
  sublist := fewer
  deadline held := by
    refine if_neg fun empty => held ?_
    simpa using empty

theorem Thinned.live_empty {before after : Volatile K V} (thinned : Thinned before after)
    {now : Int} (passed : before.expiresAt.any (· < now)) :
    (after.live now).entries.entries = [] := by
  by_cases empty : after.entries.entries = []
  · exact List.sublist_nil.mp (empty ▸ (thinned_live now after).sublist)
  · rw [← thinned.deadline empty] at passed
    rw [live, if_pos passed]
    rfl

variable {M : Type} {before after : SortedSet M} {start later : Int}

theorem thinned_zremrangebyscore (set : SortedSet M) (low high : ScoreBound) :
    Thinned set (set.zremrangebyscore low high) :=
  set.thinned_update List.filter_sublist

theorem thinned_zrem [DecidableEq M] (set : SortedSet M) (member : M) :
    Thinned set (set.zrem member) :=
  set.thinned_update (List.kerase_sublist member _)

@[simp] theorem inRange_closed_posInf (start score : Int) :
    ScoreBound.inRange (.closed start) .posInf score = decide (start ≤ score) := by
  simp [ScoreBound.inRange, ScoreBound.atLeast, ScoreBound.atMost]

theorem Thinned.zcount_le (thinned : Thinned before after) (ordered : start ≤ later) :
    after.zcount (.closed later) .posInf ≤ before.zcount (.closed start) .posInf := by
  have narrower : (after.entries.entries.filter fun entry => decide (later ≤ entry.2)).length ≤
      (after.entries.entries.filter fun entry => decide (start ≤ entry.2)).length :=
    (List.monotone_filter_right _ fun entry within => by
      rw [decide_eq_true_eq] at within ⊢
      omega).length_le
  have fewer := (thinned.sublist.filter fun entry => decide (start ≤ entry.2)).length_le
  simp only [zcount, inRange_closed_posInf]
  omega

theorem zcount_of_empty {set : SortedSet M} (empty : set.entries.entries = [])
    (low high : ScoreBound) : set.zcount low high = 0 := by
  simp [zcount, empty]

end Thinning

section Order

variable {M : Type} [LinearOrder M]

theorem zordered_perm (set : SortedSet M) :
    set.zordered.Perm (set.entries.entries.map fun entry => (entry.1, entry.2)) :=
  List.perm_insertionSort _ _

theorem pairwise_zordered (set : SortedSet M) :
    set.zordered.Pairwise fun first second => first.2 ≤ second.2 := by
  have total : Std.Total (Precedes (M := M)) := by
    constructor
    intro first second
    rcases lt_trichotomy first.2 second.2 with below | same | above
    · exact Or.inl (Or.inl below)
    · rcases le_total first.1 second.1 with ordered | ordered
      · exact Or.inl (Or.inr ⟨same, ordered⟩)
      · exact Or.inr (Or.inr ⟨same.symm, ordered⟩)
    · exact Or.inr (Or.inl above)
  have chained : IsTrans (M × Int) Precedes := by
    constructor
    rintro first second third (below | ⟨same, ordered⟩) (next | ⟨equal, after⟩)
    · exact Or.inl (below.trans next)
    · exact Or.inl (equal ▸ below)
    · exact Or.inl (same ▸ next)
    · exact Or.inr ⟨same.trans equal, ordered.trans after⟩
  refine (List.pairwise_insertionSort Precedes _).imp ?_
  rintro first second (below | ⟨same, -⟩)
  · exact below.le
  · exact same.le

theorem zcount_eq_length (set : SortedSet M) (low high : ScoreBound) :
    set.zcount low high = (set.zrangebyscore low high).length := by
  have listed := (set.zordered_perm.filter fun entry => low.inRange high entry.2).length_eq
  rw [List.filter_map, List.length_map] at listed
  rw [zcount, zrangebyscore, listed]
  rfl

def weightFrom (set : SortedSet M) (weight : M → Int) (start : Int) : Int :=
  ((set.zrangebyscore (.closed start) .posInf).map fun entry => weight entry.1).sum

theorem weightFrom_eq (set : SortedSet M) (weight : M → Int) (start : Int) :
    set.weightFrom weight start =
      ((set.entries.entries.filter fun entry => decide (start ≤ entry.2)).map
        fun entry => weight entry.1).sum := by
  have listed := ((set.zordered_perm.filter fun entry => decide (start ≤ entry.2)).map
    fun entry => weight entry.1).sum_eq
  rw [List.filter_map, List.map_map] at listed
  simp only [weightFrom, zrangebyscore, inRange_closed_posInf]
  exact listed

theorem Thinned.weightFrom_le {before after : SortedSet M} (thinned : Thinned before after)
    {weight lighter : M → Int} (nonneg : ∀ member, 0 ≤ weight member)
    (lower : ∀ member, lighter member ≤ weight member) {start later : Int}
    (ordered : start ≤ later) : after.weightFrom lighter later ≤ before.weightFrom weight start := by
  have narrower := List.monotone_filter_right after.entries.entries
    (p := fun entry => decide (later ≤ entry.2)) (q := fun entry => decide (start ≤ entry.2))
    fun entry within => by
      rw [decide_eq_true_eq] at within ⊢
      omega
  have fewer := thinned.sublist.filter fun entry => decide (start ≤ entry.2)
  rw [weightFrom_eq, weightFrom_eq]
  calc ((after.entries.entries.filter fun entry => decide (later ≤ entry.2)).map
        fun entry => lighter entry.1).sum
      ≤ ((after.entries.entries.filter fun entry => decide (later ≤ entry.2)).map
        fun entry => weight entry.1).sum := List.sum_le_sum fun entry _ => lower entry.1
    _ ≤ ((before.entries.entries.filter fun entry => decide (start ≤ entry.2)).map
        fun entry => weight entry.1).sum := by
      refine ((narrower.trans fewer).map fun entry => weight entry.1).sum_le_sum ?_
      intro value drawn
      obtain ⟨entry, -, rfl⟩ := List.mem_map.mp drawn
      exact nonneg entry.1

end Order

end Volatile
