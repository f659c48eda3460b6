import ChatGateway.Shared.Table

set_option autoImplicit false

/-!
# Tables of bounded size

Tables whose entries belong to groups, with a bound on the whole table and one on the share of a
group.
-/

namespace Table

variable {K V G : Type}

def held (table : Table K V) (wanted : K → Bool) : Nat :=
  table.total fun key _ => if wanted key then 1 else 0

theorem held_eq_length (table : Table K V) (wanted : K → Bool) :
    table.held wanted = (table.keys.filter wanted).length := by
  simp only [held, total, AList.keys, List.keys]
  induction table.entries with
  | nil => rfl
  | cons entry rest ih =>
    cases own : wanted entry.1 <;> simp [own, ih]
    exact Nat.add_comm _ _

def Lighter (before after : Table K V) : Prop :=
  ∀ weight : K → Nat, after.total (fun key _ => weight key) ≤ before.total fun key _ => weight key

theorem total_keys (table : Table K V) (weight : K → Nat) :
    table.total (fun key _ => weight key) = (table.keys.map weight).sum := by
  simp only [total, AList.keys, List.keys, List.map_map, Function.comp_def]

theorem Lighter.of_subset {before after : Table K V} (known : after.keys ⊆ before.keys) :
    Lighter before after := by
  intro weight
  obtain ⟨part, same, sublist⟩ := List.subperm_of_subset after.keys_nodup known
  rw [total_keys, total_keys, ← (same.map weight).sum_eq]
  exact (sublist.map weight).sum_le_sum fun _ _ => Nat.zero_le _

theorem Lighter.erase [DecidableEq K] (table : Table K V) (key : K) :
    Lighter table (table.erase key) := fun weight => by
  have split := table.total_erase key fun key _ => weight key
  omega

structure Within (table : Table K V) (owner : K → G) [DecidableEq G] (capacity share : Nat) :
    Prop where
  whole : table.entries.length ≤ capacity
  shares : ∀ group, table.held (owner · = group) ≤ share

section Bounds

variable [DecidableEq G] {owner : K → G} {capacity share : Nat} {before after : Table K V}

theorem Within.lighter (within : before.Within owner capacity share)
    (lighter : Lighter before after) : after.Within owner capacity share where
  whole := by
    have fewer := lighter fun _ => 1
    rw [total_one, total_one] at fewer
    exact fewer.trans within.whole
  shares group :=
    (lighter fun key => if decide (owner key = group) then 1 else 0).trans (within.shares group)

variable [DecidableEq K]

theorem total_insert_key (table : Table K V) (key : K) (value : V) (weight : K → Nat) :
    Table.total (table.insert key value) (fun key _ => weight key) =
      if (table.lookup key).isSome then table.total fun key _ => weight key
      else (table.total fun key _ => weight key) + weight key := by
  have split := table.total_erase key fun key _ => weight key
  rw [total_insert]
  cases found : table.lookup key with
  | none =>
    rw [found] at split
    simpa using split
  | some old =>
    rw [found] at split
    simpa using split

def HasRoom (table : Table K V) (owner : K → G) (capacity share : Nat) (key : K) : Prop :=
  (table.lookup key).isSome = true ∨
    (table.entries.length < capacity ∧ table.held (owner · = owner key) < share)

theorem Within.insert {table : Table K V} (within : table.Within owner capacity share) {key : K}
    (room : table.HasRoom owner capacity share key) (value : V) :
    Table.Within (table.insert key value) owner capacity share := by
  have length := table.total_insert_key key value fun _ => 1
  have counts := fun group => table.total_insert_key key value fun key =>
    if owner key = group then 1 else 0
  rw [total_one, total_one] at length
  by_cases present : (table.lookup key).isSome = true
  · refine ⟨?_, fun group => ?_⟩
    · rw [length, if_pos present]
      exact within.whole
    · have count := counts group
      rw [if_pos present] at count
      simpa [held, count] using within.shares group
  · obtain ⟨short, small⟩ := room.resolve_left present
    refine ⟨?_, fun group => ?_⟩
    · rw [length, if_neg present]
      exact short
    · have count := counts group
      have kept := within.shares group
      rw [if_neg present] at count
      simp only [held, decide_eq_true_eq] at kept small ⊢
      rw [count]
      by_cases own : owner key = group
      · subst own
        simp only [if_true]
        exact small
      · simpa [own] using kept

-- Dropping an entry makes room for a key, if it is of the group of that key or the group is not
-- full.
theorem Within.hasRoom_erase {table : Table K V} (within : table.Within owner capacity share)
    {victim key : K} {value : V} (present : table.lookup victim = some value)
    (fits : owner victim = owner key ∨ table.held (owner · = owner key) < share) :
    Table.HasRoom (table.erase victim) owner capacity share key := by
  refine .inr ⟨?_, ?_⟩
  · have split := table.total_erase victim fun _ _ => 1
    have whole := within.whole
    rw [total_one, total_one, present] at split
    simp only [Option.map_some, Option.getD_some] at split
    omega
  · have split := table.total_erase victim fun candidate _ =>
      if owner candidate = owner key then 1 else 0
    have kept := within.shares (owner key)
    rw [present] at split
    simp only [held, decide_eq_true_eq, Option.map_some, Option.getD_some] at split kept fits ⊢
    rcases fits with own | small
    · rw [if_pos own] at split
      omega
    · omega

end Bounds

end Table
