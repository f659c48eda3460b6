import ChatGateway.Shared.Table

set_option autoImplicit false

/-!
# Keys with a time to live

A keyspace entry that holds a collection and may carry a deadline. An entry whose deadline has
passed reads as absent, and an entry whose collection becomes empty is deleted with its deadline.
-/

@[ext] structure Volatile (K V : Type) where
  entries : Table K V
  expiresAt : Option Int
  deleted_of_empty : entries.entries.isEmpty → expiresAt = none

namespace Volatile

variable {K V : Type}

def absent : Volatile K V where
  entries := ∅
  expiresAt := none
  deleted_of_empty _ := rfl

def live (now : Int) (key : Volatile K V) : Volatile K V :=
  if key.expiresAt.any (· < now) then absent else key

def update (key : Volatile K V) (change : Table K V → Table K V) : Volatile K V where
  entries := change key.entries
  expiresAt := if (change key.entries).entries.isEmpty then none else key.expiresAt
  deleted_of_empty empty := if_pos empty

def pexpire (now ttl : Int) (key : Volatile K V) : Volatile K V where
  entries := if ttl ≤ 0 then ∅ else key.entries
  expiresAt := if ttl ≤ 0 ∨ key.entries.entries.isEmpty then none else some (now + ttl)
  deleted_of_empty empty := by
    by_cases passed : ttl ≤ 0
    · simp [passed]
    · exact if_pos (Or.inr (by simpa [passed] using empty))

def expire (now ttlSeconds : Int) (key : Volatile K V) : Volatile K V :=
  key.pexpire now (ttlSeconds * 1000)

@[simp] theorem update_entries (key : Volatile K V) (change : Table K V → Table K V) :
    (key.update change).entries = change key.entries := rfl

theorem pexpire_entries (now ttl : Int) (positive : 0 < ttl) (key : Volatile K V) :
    (key.pexpire now ttl).entries = key.entries :=
  if_neg (by omega)

theorem update_of_unchanged (key : Volatile K V) {change : Table K V → Table K V}
    (unchanged : change key.entries = key.entries) : key.update change = key := by
  refine Volatile.ext unchanged ?_
  simp only [update, unchanged]
  split
  next empty => exact (key.deleted_of_empty empty).symm
  next => rfl

theorem live_cases (now : Int) (key : Volatile K V) :
    key.live now = key ∨
      key.live now = absent ∧ ∃ deadline, key.expiresAt = some deadline ∧ deadline < now := by
  unfold live
  split
  next passed =>
    obtain ⟨deadline, carried, before⟩ := (Option.any_eq_true _ _).mp passed
    exact Or.inr ⟨rfl, deadline, carried, by simpa using before⟩
  next => exact Or.inl rfl

end Volatile

structure Expiring (V : Type) where
  value : V
  expiresAt : Option Int := none
  deriving DecidableEq, Repr

namespace Expiring

variable {V : Type}

def live (now : Int) (key : Option (Expiring V)) : Option (Expiring V) :=
  key.filter fun entry => !entry.expiresAt.any (· < now)

def setPx (now ttl : Int) (value : V) : Option (Expiring V) :=
  if ttl ≤ 0 then none else some { value := value, expiresAt := some (now + ttl) }

def write (initial : V) (change : V → V) (key : Option (Expiring V)) : Option (Expiring V) :=
  some { key.getD { value := initial } with value := change ((key.map value).getD initial) }

def pexpire (now ttl : Int) (key : Option (Expiring V)) : Option (Expiring V) :=
  if ttl ≤ 0 then none else key.map fun entry => { entry with expiresAt := some (now + ttl) }

/-- The remaining time to live: `-2` for a missing key and `-1` for one without a deadline. -/
def pttl (now : Int) : Option (Expiring V) → Int
  | none => -2
  | some entry => (entry.expiresAt.map (· - now)).getD (-1)

end Expiring
