import ChatGateway.Shared.Volatile
import Mathlib.Algebra.Ring.Int.Defs
import Mathlib.Data.List.Sort
import Mathlib.Data.Finset.Card

set_option autoImplicit false

/-!
# Sorted sets

Keys whose members carry integer scores, ranged over by score and, within one score, by member.
-/

abbrev SortedSet (M : Type) := Volatile M Int

inductive ScoreBound where
  | negInf
  | posInf
  | closed (score : Int)
  | opened (score : Int)
  deriving Repr, DecidableEq

namespace ScoreBound

def atLeast : ScoreBound → Int → Bool
  | negInf, _ => true
  | posInf, _ => false
  | closed low, score => low ≤ score
  | opened low, score => low < score

def atMost : ScoreBound → Int → Bool
  | negInf, _ => false
  | posInf, _ => true
  | closed high, score => score ≤ high
  | opened high, score => score < high

def inRange (low high : ScoreBound) (score : Int) : Bool :=
  low.atLeast score && high.atMost score

end ScoreBound

namespace Volatile

variable {M : Type}

def zcard (set : SortedSet M) : Int :=
  set.entries.entries.length

def zcount (set : SortedSet M) (low high : ScoreBound) : Int :=
  (set.entries.entries.filter fun entry => low.inRange high entry.2).length

def zremrangebyscore (set : SortedSet M) (low high : ScoreBound) : SortedSet M :=
  set.update fun members => members.retain fun _ score => !low.inRange high score

theorem zcard_live_le (set : SortedSet M) (now : Int) : (set.live now).zcard ≤ set.zcard := by
  rcases set.live_cases now with same | ⟨gone, -⟩
  · rw [same]
  · simp [gone, zcard, absent]

theorem zcard_zremrangebyscore_le (set : SortedSet M) (low high : ScoreBound) :
    (set.zremrangebyscore low high).zcard ≤ set.zcard := by
  simpa [zcard, zremrangebyscore, Table.retain] using List.length_filter_le _ _

theorem zcard_pexpire (set : SortedSet M) (now ttl : Int) (positive : 0 < ttl) :
    (set.pexpire now ttl).zcard = set.zcard := by
  rw [zcard, pexpire_entries now ttl positive, zcard]

section Members

variable [DecidableEq M]

def zscore (set : SortedSet M) (member : M) : Option Int :=
  set.entries.lookup member

def zadd (set : SortedSet M) (score : Int) (member : M) : SortedSet M :=
  set.update fun members => members.insert member score

def zrem (set : SortedSet M) (member : M) : SortedSet M :=
  set.update fun members => members.erase member

theorem zscore_zadd (set : SortedSet M) (score : Int) (member other : M) :
    (set.zadd score member).zscore other = if other = member then some score else set.zscore other :=
  Table.lookup_insert_eq _ _ _ _

theorem zscore_zrem (set : SortedSet M) (member other : M) :
    (set.zrem member).zscore other = if other = member then none else set.zscore other :=
  Table.lookup_erase_eq _ _ _

theorem zrem_of_missing {set : SortedSet M} {member : M} (missing : set.zscore member = none) :
    set.zrem member = set := by
  refine set.update_of_unchanged (AList.ext ?_)
  exact List.kerase_of_notMem_keys (AList.lookup_eq_none.mp missing)

theorem zscore_zremrangebyscore (set : SortedSet M) (low high : ScoreBound) (member : M) :
    (set.zremrangebyscore low high).zscore member =
      (set.zscore member).filter fun score => !low.inRange high score :=
  Table.lookup_retain _ _ _

theorem zscore_pexpire (set : SortedSet M) (now ttl : Int) (positive : 0 < ttl) (member : M) :
    (set.pexpire now ttl).zscore member = set.zscore member := by
  rw [zscore, pexpire_entries now ttl positive, zscore]

theorem zscore_of_live {set : SortedSet M} {now score : Int} {member : M}
    (present : (set.live now).zscore member = some score) : set.zscore member = some score := by
  rcases set.live_cases now with same | ⟨gone, -⟩
  · rwa [same] at present
  · simp [gone, zscore, absent] at present

theorem zcard_zrem_le (set : SortedSet M) (member : M) : (set.zrem member).zcard ≤ set.zcard := by
  have shorter := (List.kerase_sublist member set.entries.entries).length_le
  simpa [zcard, zrem, Table.erase_eq_kerase] using shorter

theorem zcard_zadd_le (set : SortedSet M) (score : Int) (member : M) :
    (set.zadd score member).zcard ≤ set.zcard + 1 := by
  have shorter := (List.kerase_sublist member set.entries.entries).length_le
  simp only [zcard, zadd, update_entries, AList.entries_insert, List.length_cons]
  omega

theorem zcard_zadd_of_member (set : SortedSet M) (score : Int) {member : M}
    (present : (set.zscore member).isSome) : (set.zadd score member).zcard = set.zcard := by
  have held : member ∈ set.entries.entries.keys := AList.lookup_isSome.mp present
  have kept : (List.kerase member set.entries.entries).length + 1 = set.entries.entries.length := by
    have erased := List.length_erase_add_one held
    rw [← List.keys_kerase] at erased
    simpa [List.keys] using erased
  simp only [zcard, zadd, update_entries, AList.entries_insert, List.length_cons]
  omega

theorem card_le_zcard (set : SortedSet M) (members : Finset M)
    (present : ∀ member ∈ members, (set.zscore member).isSome) :
    (members.card : Int) ≤ set.zcard := by
  have contained : members ⊆ set.entries.keys.toFinset := by
    intro member chosen
    exact List.mem_toFinset.mpr (AList.lookup_isSome.mp (present member chosen))
  have counted := (Finset.card_le_card contained).trans (List.toFinset_card_le _)
  simpa [zcard, AList.keys, List.keys] using counted

end Members

section Order

variable [LinearOrder M]

def Precedes (first second : M × Int) : Prop :=
  first.2 < second.2 ∨ first.2 = second.2 ∧ first.1 ≤ second.1

instance : DecidableRel (Precedes (M := M)) :=
  fun _ _ => inferInstanceAs (Decidable (_ ∨ _ ∧ _))

def zordered (set : SortedSet M) : List (M × Int) :=
  (set.entries.entries.map fun entry => (entry.1, entry.2)).insertionSort Precedes

def zrangebyscore (set : SortedSet M) (low high : ScoreBound) : List (M × Int) :=
  set.zordered.filter fun entry => low.inRange high entry.2

theorem mem_zordered {set : SortedSet M} {member : M} {score : Int} :
    (member, score) ∈ set.zordered ↔ set.zscore member = some score := by
  rw [zordered, List.mem_insertionSort, zscore, ← Option.mem_def, AList.mem_lookup_iff]
  simp

/-- The reply of `ZRANGE key 0 0 WITHSCORES`. -/
def zrangeFirst (set : SortedSet M) : Option (M × Int) :=
  set.zordered.head?

/-- `ZREMRANGEBYRANK key 0 (count - 1)` -/
def zremLowest (set : SortedSet M) (count : Int) : SortedSet M :=
  let lowest := (set.zordered.take count.toNat).map Prod.fst
  set.update fun members => members.retain fun member _ => !lowest.contains member

end Order

end Volatile
