import Mathlib.Algebra.GroupWithZero.Nat
import Mathlib.Algebra.Order.BigOperators.Group.List
import Mathlib.Algebra.Order.Group.Nat
import Mathlib.Data.List.AList

set_option autoImplicit false

/-!
# Finite tables

Association lists with unique keys, iterated in the order of their entries. A hash map
whose iteration order is unspecified is a table up to permutation of its entries.
-/

abbrev Table (K V : Type) := AList (fun _ : K => V)

namespace Table

variable {K V : Type}

def mapEntries (table : Table K V) (f : K → V → V) : Table K V where
  entries := table.entries.map fun entry => ⟨entry.1, f entry.1 entry.2⟩
  nodupKeys := by
    simpa [List.NodupKeys, List.keys, Function.comp_def] using table.nodupKeys

def retain (table : Table K V) (keep : K → V → Bool) : Table K V where
  entries := table.entries.filter fun entry => keep entry.1 entry.2
  nodupKeys := List.NodupKeys.sublist List.filter_sublist table.nodupKeys

variable [DecidableEq K]

def modify (table : Table K V) (key : K) (f : V → V) : Table K V :=
  table.mapEntries fun current value => if current = key then f value else value

@[simp] theorem lookup_mapEntries (table : Table K V) (f : K → V → V) (key : K) :
    (table.mapEntries f).lookup key = (table.lookup key).map (f key) :=
  List.dlookup_map₂ key

theorem lookup_modify (table : Table K V) (key other : K) (f : V → V) :
    (table.modify key f).lookup other =
      if other = key then (table.lookup other).map f else table.lookup other := by
  rw [modify, lookup_mapEntries]
  split <;> simp_all

@[simp] theorem lookup_modify_self (table : Table K V) (key : K) (f : V → V) :
    (table.modify key f).lookup key = (table.lookup key).map f := by
  simp [lookup_modify]

@[simp] theorem lookup_modify_ne (table : Table K V) {key other : K} (different : other ≠ key)
    (f : V → V) : (table.modify key f).lookup other = table.lookup other := by
  simp [lookup_modify, different]

@[simp] theorem lookup_retain (table : Table K V) (keep : K → V → Bool) (key : K) :
    (table.retain keep).lookup key = (table.lookup key).filter (keep key) := by
  ext value
  rw [Option.filter_eq_some_iff, ← Option.mem_def, ← Option.mem_def,
    AList.mem_lookup_iff, AList.mem_lookup_iff]
  simp [retain]

theorem lookup_insert_eq (table : Table K V) (key other : K) (value : V) :
    (table.insert key value).lookup other =
      if other = key then some value else table.lookup other := by
  by_cases same : other = key
  · subst same
    simp
  · simp [same]

theorem lookup_erase_eq (table : Table K V) (key other : K) :
    (table.erase key).lookup other = if other = key then none else table.lookup other := by
  by_cases same : other = key
  · subst same
    simp
  · simp [same]

def total (table : Table K V) (weight : K → V → Nat) : Nat :=
  (table.entries.map fun entry => weight entry.1 entry.2).sum

omit [DecidableEq K] in
theorem total_one (table : Table K V) : (table.total fun _ _ => 1) = table.entries.length := by
  simp [total]

omit [DecidableEq K] in
theorem total_retain_le (table : Table K V) (keep : K → V → Bool) (weight : K → V → Nat) :
    (table.retain keep).total weight ≤ table.total weight :=
  (List.filter_sublist.map _).sum_le_sum fun _ _ => Nat.zero_le _

omit [DecidableEq K] in
theorem total_mapEntries (table : Table K V) (f : K → V → V) (weight : K → V → Nat) :
    (table.mapEntries f).total weight = table.total fun key value => weight key (f key value) := by
  simp only [total, mapEntries, List.map_map, Function.comp_def]

omit [DecidableEq K] in
theorem total_congr (table : Table K V) {weight other : K → V → Nat}
    (same : ∀ entry ∈ table.entries, weight entry.1 entry.2 = other entry.1 entry.2) :
    table.total weight = table.total other :=
  congrArg List.sum (List.map_congr_left same)

omit [DecidableEq K] in
theorem total_mapEntries_le (table : Table K V) (f : K → V → V) (weight : K → V → Nat)
    (lighter : ∀ key value, weight key (f key value) ≤ weight key value) :
    (table.mapEntries f).total weight ≤ table.total weight := by
  simp only [total, mapEntries, List.map_map]
  exact List.sum_le_sum fun entry _ => lighter entry.1 entry.2

theorem erase_eq_kerase (table : Table K V) (key : K) :
    (table.erase key).entries = List.kerase key table.entries := rfl

theorem total_erase (table : Table K V) (key : K) (weight : K → V → Nat) :
    Table.total (table.erase key) weight + ((table.lookup key).map (weight key)).getD 0 =
      table.total weight := by
  rw [total, erase_eq_kerase]
  obtain ⟨entries, nodup⟩ := table
  simp only [total, AList.lookup]
  induction entries with
  | nil => simp
  | cons entry rest ih =>
    obtain ⟨first, value⟩ := entry
    have known := ih (List.nodupKeys_cons.1 nodup).2
    by_cases same : key = first
    · subst same
      simp [Nat.add_comm]
    · have kept : List.kerase key (⟨first, value⟩ :: rest) = ⟨first, value⟩ :: List.kerase key rest :=
        List.kerase_cons_ne same
      have found : List.dlookup key (⟨first, value⟩ :: rest) = List.dlookup key rest :=
        List.dlookup_cons_ne rest _ same
      rw [kept, found, List.map_cons, List.map_cons, List.sum_cons, List.sum_cons]
      omega

theorem total_insert (table : Table K V) (key : K) (value : V) (weight : K → V → Nat) :
    Table.total (table.insert key value) weight = Table.total (table.erase key) weight + weight key value := by
  simp [total, AList.entries_insert, erase_eq_kerase, Nat.add_comm]

def Reordered (first second : Table K V) : Prop :=
  first.entries.Perm second.entries

theorem Reordered.lookup {first second : Table K V} (reordered : first.Reordered second) (key : K) :
    second.lookup key = first.lookup key :=
  (AList.perm_lookup reordered).symm

theorem entries_erase (table : Table K V) (key : K) :
    (table.erase key).entries = table.entries.filter fun entry => entry.1 ≠ key := by
  rw [erase_eq_kerase]
  obtain ⟨entries, nodup⟩ := table
  induction entries with
  | nil => rfl
  | cons entry rest ih =>
    obtain ⟨absent, distinct⟩ := List.nodupKeys_cons.1 nodup
    by_cases same : key = entry.1
    · have kept : rest.filter (fun other => other.1 ≠ key) = rest := by
        refine List.filter_eq_self.2 fun other known => decide_eq_true ?_
        rintro rfl
        exact absent (same ▸ List.mem_keys_of_mem known)
      rw [List.kerase_cons_eq same, List.filter_cons_of_neg (by simp [same]), kept]
    · rw [List.kerase_cons_ne same, List.filter_cons_of_pos (by simp [Ne.symm same]), ih distinct]

variable {table : Table K V} {listed : List ((_ : K) × V)}

theorem perm_erase (same : table.entries.Perm listed) (key : K) :
    (table.erase key).entries.Perm (listed.filter fun entry => entry.1 ≠ key) := by
  rw [entries_erase]
  exact same.filter _

theorem perm_insert (same : table.entries.Perm listed) {key : K}
    (fresh : ∀ entry ∈ listed, entry.1 ≠ key) (value : V) :
    (table.insert key value).entries.Perm (listed ++ [⟨key, value⟩]) := by
  have absent : key ∉ table.entries.keys := fun known => by
    obtain ⟨entry, stored, alike⟩ := List.mem_map.1 known
    exact fresh entry (same.mem_iff.1 stored) alike
  rw [AList.entries_insert, List.kerase_of_notMem_keys absent]
  exact (same.cons _).trans (List.perm_append_singleton _ _).symm

omit [DecidableEq K] in
theorem perm_retain (same : table.entries.Perm listed) (keep : K → V → Bool) :
    (table.retain keep).entries.Perm (listed.filter fun entry => keep entry.1 entry.2) :=
  same.filter _

section Keys

variable {T : Type} {items : List T} {name : T → K}

theorem keys_perm_erase (same : table.keys.Perm (items.map name)) (key : K) :
    (table.erase key).keys.Perm ((items.filter fun item => name item ≠ key).map name) := by
  rw [AList.keys_erase, table.keys_nodup.erase_eq_filter]
  refine (same.filter _).trans ?_
  rw [List.filter_map]
  refine List.Perm.of_eq (congrArg _ (List.filter_congr fun item _ => ?_))
  by_cases own : name item = key <;> simp [own]

theorem keys_perm_insert (same : table.keys.Perm (items.map name)) (item : T)
    (fresh : ∀ other ∈ items, name other ≠ name item) (value : V) :
    (table.insert (name item) value).keys.Perm ((items ++ [item]).map name) := by
  have absent : name item ∉ table.keys := fun known => by
    obtain ⟨other, listed, alike⟩ := List.mem_map.1 (same.mem_iff.1 known)
    exact fresh other listed alike
  rw [AList.keys_insert, List.erase_of_not_mem absent, List.map_append]
  exact (same.cons _).trans (List.perm_append_singleton _ _).symm

end Keys

end Table
