import ChatGateway.Shared.OrderedMap

set_option autoImplicit false

/-!
# Entries updated item by item

A loop over keyed items that updates the entry of each item's key leaves, under every key, what the
loop over the items of that key alone leaves.
-/

namespace ChatGateway.OrderedMap

variable {K V A : Type} [LinearOrder K]

def itemsOf (key : K) (items : List (K × A)) : List A :=
  items.filterMap fun item => if item.1 = key then some item.2 else none

theorem itemsOf_cons (key : K) (item : K × A) (rest : List (K × A)) :
    itemsOf key (item :: rest) =
      if item.1 = key then item.2 :: itemsOf key rest else itemsOf key rest := by
  by_cases same : item.1 = key <;> simp [itemsOf, same]

@[simp] theorem itemsOf_append (key : K) (earlier later : List (K × A)) :
    itemsOf key (earlier ++ later) = itemsOf key earlier ++ itemsOf key later :=
  List.filterMap_append

def update (fresh : V) (step : V → A → V) (map : OrderedMap K V) (item : K × A) :
    OrderedMap K V :=
  map.put item.1 (step ((map.find? item.1).getD fresh) item.2)

theorem find?_foldl_update (fresh : V) (step : V → A → V) (items : List (K × A))
    (map : OrderedMap K V) (key : K) :
    (items.foldl (update fresh step) map).find? key =
      if itemsOf key items = [] then map.find? key
      else some ((itemsOf key items).foldl step ((map.find? key).getD fresh)) := by
  induction items generalizing map with
  | nil => rfl
  | cons item rest ih =>
    rw [List.foldl_cons, ih, itemsOf_cons, update, find?_put]
    by_cases same : item.1 = key
    · subst same
      rw [if_pos rfl, if_pos rfl, if_neg (List.cons_ne_nil _ _), List.foldl_cons]
      split
      next last => rw [last, List.foldl_nil]
      next => rfl
    · rw [if_neg same, if_neg same]

theorem isEmpty_foldl_update (fresh : V) (step : V → A → V) (items : List (K × A))
    (map : OrderedMap K V) :
    (items.foldl (update fresh step) map).isEmpty = (map.isEmpty && items.isEmpty) := by
  induction items generalizing map with
  | nil => simp
  | cons item rest ih =>
    rw [List.foldl_cons, ih, update, isEmpty_put]
    simp

theorem nodup_entries (map : OrderedMap K V) : map.entries.Nodup := by
  refine map.sorted.imp ?_
  rintro entry _ before rfl
  exact lt_irrefl _ before

theorem ext_find? {first second : OrderedMap K V}
    (same : ∀ key, first.find? key = second.find? key) : first = second := by
  have members : ∀ entry, entry ∈ first.entries ↔ entry ∈ second.entries := by
    rintro ⟨key, value⟩
    rw [← find?_eq_some, ← find?_eq_some, same]
  apply ext_entries
  refine List.Perm.eq_of_pairwise ?_ first.sorted second.sorted
    ((List.perm_ext_iff_of_nodup (nodup_entries first) (nodup_entries second)).2 members)
  intro _ _ _ _ before after
  exact absurd (lt_trans before after) (lt_irrefl _)

theorem foldl_update_eq (fresh : V) (step : V → A → V) {items others : List (K × A)}
    (same : ∀ key, itemsOf key items = itemsOf key others) (map : OrderedMap K V) :
    items.foldl (update fresh step) map = others.foldl (update fresh step) map := by
  apply ext_find?
  intro key
  rw [find?_foldl_update, find?_foldl_update, same]

theorem itemsOf_entries (map : OrderedMap K A) (key : K) :
    itemsOf key map.entries = (map.find? key).toList := by
  obtain ⟨entries, sorted⟩ := map
  simp only [find?]
  induction entries with
  | nil => rfl
  | cons head rest ih =>
    obtain ⟨name, value⟩ := head
    obtain ⟨below, later⟩ := List.pairwise_cons.1 sorted
    rw [itemsOf_cons, findIn]
    by_cases same : name = key
    · -- The keys behind are larger, so that the key is not among them.
      subst same
      have absent : findIn name rest = none := by
        rw [Option.eq_none_iff_forall_ne_some]
        intro other found
        have member := (@find?_eq_some K A _ ⟨rest, later⟩ _ _).1 found
        exact lt_irrefl name (below _ member)
      have none_left := ih later
      rw [absent] at none_left
      rw [if_pos rfl, if_pos rfl, none_left]
      rfl
    · rw [if_neg same, if_neg same, ih later]

def merge (fresh : V) (step : V → A → V) (map : OrderedMap K V) (more : OrderedMap K A) :
    OrderedMap K V :=
  more.entries.foldl (update fresh step) map

theorem find?_merge (fresh : V) (step : V → A → V) (map : OrderedMap K V) (more : OrderedMap K A)
    (key : K) :
    (merge fresh step map more).find? key =
      ((more.find? key).map (step ((map.find? key).getD fresh))).or (map.find? key) := by
  rw [merge, find?_foldl_update, itemsOf_entries]
  cases more.find? key <;> rfl

theorem merge_self {fresh : V} {step : V → A → V}
    (settles : ∀ value item, step (step value item) item = step value item)
    (map : OrderedMap K V) (more : OrderedMap K A) :
    merge fresh step (merge fresh step map more) more = merge fresh step map more := by
  apply ext_find?
  intro key
  rw [find?_merge, find?_merge]
  cases given : more.find? key with
  | none => rfl
  | some item =>
    simp only [Option.map_some, Option.some_or, Option.getD_some]
    rw [settles]

theorem merge_comm {fresh : V} {step : V → A → V} {first second : OrderedMap K A}
    (apart : ∀ key, first.find? key = none ∨ second.find? key = none) (map : OrderedMap K V) :
    merge fresh step (merge fresh step map first) second =
      merge fresh step (merge fresh step map second) first := by
  apply ext_find?
  intro key
  simp only [find?_merge]
  rcases apart key with absent | absent <;> simp [absent]

end ChatGateway.OrderedMap
