import Mathlib.Data.Nat.Basic
import Mathlib.Data.List.Sort

set_option autoImplicit false

/-!
# Ordered maps

Maps kept in ascending order of their keys, as iteration over a B-tree visits them.
-/

namespace ChatGateway

structure OrderedMap (K V : Type) [LT K] where
  entries : List (K × V)
  sorted : entries.Pairwise fun first second => first.1 < second.1

namespace OrderedMap

instance {K V : Type} [LT K] : EmptyCollection (OrderedMap K V) := ⟨⟨[], .nil⟩⟩

@[simp] theorem entries_empty {K V : Type} [LT K] : ({} : OrderedMap K V).entries = [] := rfl

variable {K V : Type} [LinearOrder K]

def findIn (key : K) : List (K × V) → Option V
  | [] => none
  | (name, value) :: rest => if name = key then some value else findIn key rest

def putIn (key : K) (value : V) : List (K × V) → List (K × V)
  | [] => [(key, value)]
  | (name, old) :: rest =>
    if key < name then (key, value) :: (name, old) :: rest
    else if name = key then (key, value) :: rest
    else (name, old) :: putIn key value rest

theorem mem_putIn {key : K} {value : V} {entries : List (K × V)} {entry : K × V}
    (member : entry ∈ putIn key value entries) : entry = (key, value) ∨ entry ∈ entries := by
  induction entries with
  | nil => exact .inl (List.mem_singleton.1 member)
  | cons head rest ih =>
    rw [putIn] at member
    split at member
    · rcases List.mem_cons.1 member with rfl | later
      · exact .inl rfl
      · exact .inr later
    · split at member
      · rcases List.mem_cons.1 member with rfl | later
        · exact .inl rfl
        · exact .inr (List.mem_cons_of_mem _ later)
      · rcases List.mem_cons.1 member with rfl | later
        · exact .inr List.mem_cons_self
        · exact (ih later).imp_right (List.mem_cons_of_mem _)

theorem putIn_sorted (key : K) (value : V) {entries : List (K × V)}
    (sorted : entries.Pairwise fun first second => first.1 < second.1) :
    (putIn key value entries).Pairwise fun first second => first.1 < second.1 := by
  induction entries with
  | nil => simp [putIn]
  | cons head rest ih =>
    obtain ⟨below, later⟩ := List.pairwise_cons.1 sorted
    rw [putIn]
    split
    · next before =>
      refine List.pairwise_cons.2 ⟨fun entry member => ?_, sorted⟩
      rcases List.mem_cons.1 member with rfl | member
      · exact before
      · exact lt_trans before (below entry member)
    · next after =>
      split
      · next same =>
        subst same
        exact List.pairwise_cons.2 ⟨below, later⟩
      · next other =>
        refine List.pairwise_cons.2 ⟨fun entry member => ?_, ih later⟩
        rcases mem_putIn member with rfl | member
        · exact lt_of_le_of_ne (not_lt.1 after) other
        · exact below entry member

def find? (map : OrderedMap K V) (key : K) : Option V :=
  findIn key map.entries

def put (map : OrderedMap K V) (key : K) (value : V) : OrderedMap K V where
  entries := putIn key value map.entries
  sorted := putIn_sorted key value map.sorted

def map {W : Type} (entries : OrderedMap K V) (change : V → W) : OrderedMap K W where
  entries := entries.entries.map fun entry => (entry.1, change entry.2)
  sorted := List.pairwise_map.2 entries.sorted

def values (map : OrderedMap K V) : List V :=
  map.entries.map (·.2)

def lastKey? (map : OrderedMap K V) : Option K :=
  map.entries.getLast?.map (·.1)

def isEmpty (map : OrderedMap K V) : Bool :=
  map.entries.isEmpty

theorem findIn_putIn (key other : K) (value : V) {entries : List (K × V)}
    (sorted : entries.Pairwise fun first second => first.1 < second.1) :
    findIn other (putIn key value entries) =
      if key = other then some value else findIn other entries := by
  induction entries with
  | nil => rfl
  | cons head rest ih =>
    obtain ⟨name, old⟩ := head
    have later := ih (List.pairwise_cons.1 sorted).2
    rw [putIn]
    by_cases before : key < name
    · simp [before, findIn]
    · by_cases same : name = key
      · subst same
        rw [if_neg before, if_pos rfl]
        by_cases here : name = other <;> simp [findIn, here]
      · by_cases here : key = other
        · subst here
          simp [before, same, findIn, later]
        · simp [before, same, findIn, later, here]

theorem find?_put (map : OrderedMap K V) (key other : K) (value : V) :
    (map.put key value).find? other = if key = other then some value else map.find? other :=
  findIn_putIn key other value map.sorted

@[simp] theorem find?_put_self (map : OrderedMap K V) (key : K) (value : V) :
    (map.put key value).find? key = some value := by
  simp [find?_put]

@[simp] theorem find?_empty (key : K) : ({} : OrderedMap K V).find? key = none := rfl

theorem find?_eq_some {map : OrderedMap K V} {key : K} {value : V} :
    map.find? key = some value ↔ (key, value) ∈ map.entries := by
  obtain ⟨entries, sorted⟩ := map
  simp only [find?]
  induction entries with
  | nil => simp [findIn]
  | cons head rest ih =>
    obtain ⟨name, old⟩ := head
    obtain ⟨below, later⟩ := List.pairwise_cons.1 sorted
    by_cases same : name = key
    · subst same
      have absent : (name, value) ∉ rest := fun member =>
        lt_irrefl name (below (name, value) member)
      simp [findIn, absent, eq_comm]
    · simp [findIn, same, ih later, Ne.symm same]

@[simp] theorem isEmpty_put (map : OrderedMap K V) (key : K) (value : V) :
    (map.put key value).isEmpty = false := by
  have present := findIn_putIn key key value map.sorted
  change (putIn key value map.entries).isEmpty = false
  cases stored : putIn key value map.entries with
  | nil => simp [stored, findIn] at present
  | cons entry rest => rfl

theorem find?_of_isEmpty {map : OrderedMap K V} (none : map.isEmpty = true) (key : K) :
    map.find? key = Option.none := by
  rw [find?, List.isEmpty_iff.1 none]
  rfl

theorem isEmpty_of_find? {map : OrderedMap K V} {key : K} {value : V}
    (found : map.find? key = some value) : map.isEmpty = false := by
  cases none : map.isEmpty with
  | false => rfl
  | true => rw [find?_of_isEmpty none] at found; cases found

theorem exists_values_putIn (key : K) (value : V) {entries : List (K × V)}
    (sorted : entries.Pairwise fun first second => first.1 < second.1) :
    ∃ rest, ((putIn key value entries).map (·.2)).Perm (value :: rest) ∧
      (entries.map (·.2)).Perm ((findIn key entries).toList ++ rest) := by
  induction entries with
  | nil => exact ⟨[], List.Perm.refl _, List.Perm.refl _⟩
  | cons head later ih =>
    obtain ⟨name, old⟩ := head
    obtain ⟨below, sortedLater⟩ := List.pairwise_cons.1 sorted
    rw [putIn]
    split
    · next before =>
      have missing : findIn key ((name, old) :: later) = none := by
        have absent : findIn key later = none := by
          cases found : findIn key later with
          | none => rfl
          | some other =>
            have held : (key, other) ∈ later :=
              (@find?_eq_some K V _ ⟨later, sortedLater⟩ key other).1 found
            exact absurd (lt_trans before (below _ held)) (lt_irrefl _)
        rw [findIn, if_neg (ne_of_gt before), absent]
      rw [missing]
      exact ⟨_, List.Perm.refl _, List.Perm.refl _⟩
    · split
      · next same =>
        rw [findIn, if_pos same]
        exact ⟨later.map (·.2), List.Perm.refl _, List.Perm.refl _⟩
      · next other =>
        obtain ⟨rest, put, held⟩ := ih sortedLater
        rw [findIn, if_neg other]
        refine ⟨old :: rest, (put.cons old).trans (List.Perm.swap ..), ?_⟩
        exact (held.cons old).trans List.perm_middle.symm

theorem exists_values_put (map : OrderedMap K V) (key : K) (value : V) :
    ∃ rest, (map.put key value).values.Perm (value :: rest) ∧
      map.values.Perm ((map.find? key).toList ++ rest) :=
  exists_values_putIn key value map.sorted

def filter (map : OrderedMap K V) (wanted : V → Bool) : OrderedMap K V where
  entries := map.entries.filter fun entry => wanted entry.2
  sorted := map.sorted.filter _

theorem find?_filter (map : OrderedMap K V) (wanted : V → Bool) (key : K) :
    (map.filter wanted).find? key = (map.find? key).filter wanted := by
  apply Option.ext
  intro value
  rw [find?_eq_some, Option.filter_eq_some_iff, find?_eq_some]
  exact List.mem_filter

theorem foldl_store [DecidableEq K] {W : Type} {store : (K → W) → K × V → K → W} {kept : V → Option W}
    (stores : ∀ held entry, store held entry =
      ((kept entry.2).map (Function.update held entry.1)).getD held)
    (map : OrderedMap K V) (held : K → W) (key : K) :
    map.entries.foldl store held key = ((map.find? key).bind kept).getD (held key) := by
  obtain ⟨entries, sorted⟩ := map
  simp only [find?]
  induction entries generalizing held with
  | nil => rfl
  | cons head rest ih =>
    obtain ⟨name, value⟩ := head
    obtain ⟨below, later⟩ := List.pairwise_cons.1 sorted
    rw [List.foldl_cons, ih _ later, stores, findIn]
    by_cases same : name = key
    · subst same
      have absent : findIn name rest = none := by
        rw [Option.eq_none_iff_forall_ne_some]
        intro other found
        have member := (@find?_eq_some K V _ ⟨rest, later⟩ _ _).1 found
        exact lt_irrefl name (below _ member)
      rw [absent, if_pos rfl]
      cases said : kept value <;> simp [said]
    · rw [if_neg same]
      cases said : kept value <;> simp [Function.update_of_ne (Ne.symm same)]

@[ext] theorem ext_entries {first second : OrderedMap K V} (same : first.entries = second.entries) :
    first = second := by
  cases first
  cases second
  cases same
  rfl

theorem putIn_of_last {key : K} {value : V} {entries : List (K × V)}
    (last : ∀ entry ∈ entries, entry.1 < key) :
    putIn key value entries = entries ++ [(key, value)] := by
  induction entries with
  | nil => rfl
  | cons head rest ih =>
    rw [List.forall_mem_cons] at last
    rw [putIn, if_neg (lt_asymm last.1), if_neg last.1.ne, ih last.2, List.cons_append]

theorem foldl_put_entries (map : OrderedMap K V) :
    map.entries.foldl (fun built entry => built.put entry.1 entry.2) {} = map := by
  suffices grows : ∀ (rest : List (K × V)) (built : OrderedMap K V),
      (built.entries ++ rest).Pairwise (fun first second => first.1 < second.1) →
      (rest.foldl (fun built entry => built.put entry.1 entry.2) built).entries =
        built.entries ++ rest by
    apply ext_entries
    rw [grows map.entries {} (by simpa using map.sorted)]
    rfl
  intro rest
  induction rest with
  | nil =>
    intro built _
    simp
  | cons entry rest ih =>
    intro built sorted
    have last : ∀ held ∈ built.entries, held.1 < entry.1 := fun held member =>
      (List.pairwise_append.mp sorted).2.2 held member entry List.mem_cons_self
    have entries : (built.put entry.1 entry.2).entries = built.entries ++ [entry] :=
      putIn_of_last last
    rw [List.foldl_cons, ih _ (by rw [entries]; simpa using sorted), entries]
    simp

end OrderedMap

section Ranking

variable {V : Type} {items : List (Nat × V)} {count : Nat}

theorem keys_insertionSort (nodup : (items.map (·.1)).Nodup)
    (keys : ∀ key, key ∈ items.map (·.1) ↔ key < count) :
    (items.insertionSort fun first second => first.1 ≤ second.1).map (·.1) = List.range count := by
  let order : Nat × V → Nat × V → Prop := fun first second => first.1 ≤ second.1
  have : Std.Total order := ⟨fun first second => le_total first.1 second.1⟩
  have : IsTrans (Nat × V) order := ⟨fun _ _ _ => le_trans⟩
  have sorted : ((items.insertionSort order).map (·.1)).Pairwise (· ≤ ·) :=
    List.pairwise_map.2 (List.pairwise_insertionSort order items)
  have perm : ((items.insertionSort order).map (·.1)).Perm (List.range count) := by
    refine ((List.perm_insertionSort order items).map _).trans ?_
    rw [List.perm_ext_iff_of_nodup nodup List.nodup_range]
    intro key
    rw [keys, List.mem_range]
  exact perm.eq_of_pairwise' sorted List.pairwise_le_range

-- When the keys are the numbers below `count`, sorting puts each value at its key.
theorem getElem?_insertionSort (nodup : (items.map (·.1)).Nodup)
    (keys : ∀ key, key ∈ items.map (·.1) ↔ key < count) {key : Nat} {value : V}
    (member : (key, value) ∈ items) :
    ((items.insertionSort fun first second => first.1 ≤ second.1).map (·.2))[key]? =
      some value := by
  have below : key < count := (keys key).1 (List.mem_map_of_mem member)
  have here := congrArg (·[key]?) (keys_insertionSort nodup keys)
  simp only [List.getElem?_map, List.getElem?_range below, Option.map_eq_some_iff] at here
  obtain ⟨⟨other, found⟩, at_key, rfl⟩ := here
  have original : (other, found) ∈ items :=
    (List.mem_insertionSort _).1 (List.mem_of_getElem? at_key)
  have same : (other, found) = (other, value) :=
    List.inj_on_of_nodup_map nodup original member rfl
  rw [List.getElem?_map, at_key, same]
  rfl

end Ranking

end ChatGateway
