import Mathlib.Data.List.Basic

set_option autoImplicit false

/-!
# JSON values

Values as `serde_json` holds them, with the accessors its users read them by.
-/

namespace ChatGateway

inductive JsonNumber where
  | natural (value : Nat)
  | negative (value : Nat)
  | float (text : String)
deriving DecidableEq, Repr

inductive Json where
  | null
  | bool (value : Bool)
  | number (value : JsonNumber)
  | string (value : String)
  | array (items : List Json)
  | object (fields : List (String × Json))
deriving Repr

namespace Json

mutual

def same : Json → Json → Bool
  | null, null => true
  | bool first, bool second => first = second
  | number first, number second => first = second
  | string first, string second => first = second
  | array first, array second => sameItems first second
  | object first, object second => sameFields first second
  | _, _ => false

def sameItems : List Json → List Json → Bool
  | [], [] => true
  | first :: firsts, second :: seconds => same first second && sameItems firsts seconds
  | _, _ => false

def sameFields : List (String × Json) → List (String × Json) → Bool
  | [], [] => true
  | (firstKey, first) :: firsts, (secondKey, second) :: seconds =>
    firstKey = secondKey && same first second && sameFields firsts seconds
  | _, _ => false

end

mutual

theorem same_iff : ∀ first second : Json, same first second = true ↔ first = second
  | null, second => by cases second <;> simp [same]
  | bool _, second => by cases second <;> simp [same]
  | number _, second => by cases second <;> simp [same]
  | string _, second => by cases second <;> simp [same]
  | array items, second => by cases second <;> simp [same, sameItems_iff items]
  | object fields, second => by cases second <;> simp [same, sameFields_iff fields]

theorem sameItems_iff : ∀ first second : List Json, sameItems first second = true ↔ first = second
  | [], second => by cases second <;> simp [sameItems]
  | first :: firsts, second => by
    cases second <;> simp [sameItems, same_iff first, sameItems_iff firsts]

theorem sameFields_iff : ∀ first second : List (String × Json),
    sameFields first second = true ↔ first = second
  | [], second => by cases second <;> simp [sameFields]
  | (key, first) :: firsts, second => by
    rcases second with _ | ⟨⟨_, _⟩, _⟩ <;>
      simp [sameFields, same_iff first, sameFields_iff firsts, and_assoc]

end

instance : DecidableEq Json := fun first second =>
  decidable_of_iff (same first second = true) (same_iff first second)

def asStr : Json → Option String
  | string value => some value
  | _ => none

def asU64 : Json → Option Nat
  | number (.natural value) => some value
  | _ => none

def asArray : Json → Option (List Json)
  | array items => some items
  | _ => none

def asObject : Json → Option (List (String × Json))
  | object fields => some fields
  | _ => none

def isNull : Json → Bool
  | null => true
  | _ => false

def ofNat (value : Nat) : Json := number (.natural value)

def field : List (String × Json) → String → Option Json
  | [], _ => none
  | (name, value) :: rest, key => if name = key then some value else field rest key

def setField : List (String × Json) → String → Json → List (String × Json)
  | [], key, value => [(key, value)]
  | (name, old) :: rest, key, value =>
    if name = key then (name, value) :: rest else (name, old) :: setField rest key value

def removeField (fields : List (String × Json)) (key : String) : List (String × Json) :=
  fields.filter fun field => field.1 ≠ key

def get (value : Json) (key : String) : Option Json :=
  value.asObject.bind (field · key)

def str (value : Json) (key : String) : Option String :=
  (value.get key).bind asStr

def u64 (value : Json) (key : String) : Option Nat :=
  (value.get key).bind asU64

@[simp] theorem get_object (fields : List (String × Json)) (key : String) :
    (object fields).get key = field fields key := rfl

@[simp] theorem field_nil (key : String) : field [] key = none := rfl

@[simp] theorem field_cons (name key : String) (value : Json) (rest : List (String × Json)) :
    field ((name, value) :: rest) key = if name = key then some value else field rest key := rfl

theorem field_append (first second : List (String × Json)) (key : String) :
    field (first ++ second) key = (field first key).or (field second key) := by
  induction first with
  | nil => simp
  | cons head rest ih =>
    obtain ⟨name, value⟩ := head
    by_cases same : name = key <;> simp [same, ih]

theorem field_setField (fields : List (String × Json)) (key other : String) (value : Json) :
    field (setField fields key value) other =
      if key = other then some value else field fields other := by
  induction fields with
  | nil => rfl
  | cons head rest ih =>
    obtain ⟨name, old⟩ := head
    by_cases here : name = key
    · subst here
      by_cases same : name = other <;> simp [setField, same]
    · by_cases same : key = other
      · subst same
        simp [setField, here, ih]
      · simp [setField, here, ih, same]

theorem field_removeField (fields : List (String × Json)) (key other : String) :
    field (removeField fields key) other = if key = other then none else field fields other := by
  induction fields with
  | nil => simp [removeField]
  | cons head rest ih =>
    obtain ⟨name, old⟩ := head
    by_cases here : name = key
    · have removed : removeField ((name, old) :: rest) key = removeField rest key := by
        simp [removeField, here]
      subst here
      rw [removed, ih]
      by_cases same : name = other <;> simp [same]
    · have kept : removeField ((name, old) :: rest) key = (name, old) :: removeField rest key := by
        simp [removeField, here]
      rw [kept, field_cons, field_cons, ih]
      by_cases same : key = other
      · subst same
        simp [here]
      · simp [same]

end Json

end ChatGateway
