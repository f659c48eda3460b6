import Mathlib.Data.List.Induction

set_option autoImplicit false

/-!
# The last one that speaks

A loop that overwrites a value whenever an item has one ends with the value of the last such item.
-/

namespace ChatGateway

variable {I V W : Type}

def lastSome (speak : I → Option V) (items : List I) : Option V :=
  (items.filterMap speak).getLast?

@[simp] theorem lastSome_nil (speak : I → Option V) : lastSome speak [] = none := rfl

theorem lastSome_append_singleton (speak : I → Option V) (items : List I) (item : I) :
    lastSome speak (items ++ [item]) = (speak item).or (lastSome speak items) := by
  cases said : speak item with
  | none => simp [lastSome, List.filterMap_append, said]
  | some value => simp [lastSome, List.filterMap_append, said]

theorem lastSome_append (speak : I → Option V) (items more : List I) :
    lastSome speak (items ++ more) = (lastSome speak more).or (lastSome speak items) := by
  rw [lastSome, List.filterMap_append, List.getLast?_append]
  rfl

theorem lastSome_eq_none {speak : I → Option V} {items : List I} :
    lastSome speak items = none ↔ ∀ item ∈ items, speak item = none := by
  rw [lastSome, List.getLast?_eq_none_iff, List.filterMap_eq_nil_iff]

theorem exists_of_lastSome {speak : I → Option V} {items : List I} {value : V}
    (said : lastSome speak items = some value) : ∃ item ∈ items, speak item = some value :=
  List.mem_filterMap.mp (List.mem_of_getLast? said)

theorem map_lastSome (view : V → W) (speak : I → Option V) (items : List I) :
    (lastSome speak items).map view = lastSome (fun item => (speak item).map view) items := by
  rw [lastSome, lastSome, ← List.getLast?_map, List.map_filterMap]

theorem foldl_overwrite_view {S : Type} (view : S → W) {held : V → W} {speak : I → Option V}
    {step : S → I → S}
    (overwrites : ∀ state item, view (step state item) = ((speak item).map held).getD (view state))
    (items : List I) (start : S) :
    view (items.foldl step start) = ((lastSome speak items).map held).getD (view start) := by
  induction items using List.reverseRecOn with
  | nil => rfl
  | append_singleton items item ih =>
    rw [List.foldl_append, List.foldl_cons, List.foldl_nil, overwrites, ih,
      lastSome_append_singleton]
    cases speak item <;> rfl

theorem foldl_overwrite {held : V → W} {speak : I → Option V} {step : W → I → W}
    (overwrites : ∀ value item, step value item = ((speak item).map held).getD value)
    (items : List I) (start : W) :
    items.foldl step start = ((lastSome speak items).map held).getD start :=
  foldl_overwrite_view id overwrites items start

theorem lastSome_map {J : Type} (change : J → I) (speak : I → Option V) (items : List J) :
    lastSome speak (items.map change) = lastSome (fun item => speak (change item)) items := by
  rw [lastSome, List.filterMap_map]
  rfl

end ChatGateway
