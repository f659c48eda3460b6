import ChatGateway.Capabilities.Types
import ChatGateway.Shared.LastWins
import ChatGateway.Shared.Transition
import Mathlib.Data.Finset.Insert
import Mathlib.Data.List.MinMax

set_option autoImplicit false

/-!
# Runtime capability hints

What the upstreams refused lately, remembered for a while: a hint blocks a feature of a route, or
its protocol, until it expires or a success disproves it.
-/

namespace ChatGateway

def runtimeCapabilityHintCapacity : Nat := 16_384

def runtimeCapabilityHintTtl : Duration := Duration.fromSecs (15 * 60)

inductive CapabilityHintDiscriminator where
  | feature (capability : Capability) (value : Option String)
  | protocol
deriving DecidableEq

structure CapabilityHintKey where
  profile : DialectProfileKey
  discriminator : CapabilityHintDiscriminator
deriving DecidableEq

def CapabilityHintKey.ofFeature (profile : DialectProfileKey) (capability : Capability)
    (value : Option String) : CapabilityHintKey :=
  ⟨profile, .feature capability value⟩

structure RuntimeCapabilityHintEntry where
  configurationFingerprint : String
  expiresAt : Instant
deriving DecidableEq

structure RuntimeCapabilityHintSnapshot where
  entries : List (CapabilityHintKey × String)

namespace RuntimeCapabilityHintSnapshot

variable (snapshot : RuntimeCapabilityHintSnapshot)

def blocked (profile : DialectProfileKey) (configurationFingerprint : String)
    (requestedValue : Option String) (entry : CapabilityHintKey × String) :
    Option (Capability × Option String) :=
  if entry.1.profile ≠ profile ∨ entry.2 ≠ configurationFingerprint then none
  else
    match entry.1.discriminator with
    | .feature capability value =>
      if value.all fun value => some value = requestedValue then some (capability, value) else none
    | .protocol => none

def blockedFeatures (profile : DialectProfileKey) (configurationFingerprint : String)
    (requestedValue : Option String) : List (Capability × Option String) :=
  snapshot.entries.filterMap (blocked profile configurationFingerprint requestedValue)

end RuntimeCapabilityHintSnapshot

structure RuntimeCapabilityHints where
  entries : Table CapabilityHintKey RuntimeCapabilityHintEntry := ∅
  capacity : Nat
  ttl : Duration

namespace RuntimeCapabilityHints

def new (capacity : Nat) (ttl : Duration) : RuntimeCapabilityHints where
  capacity := max capacity 1
  ttl := max ttl (Duration.fromSecs 1)

variable (hints : RuntimeCapabilityHints)

def len : Nat :=
  hints.entries.entries.length

def retain (keep : CapabilityHintKey → RuntimeCapabilityHintEntry → Bool) :
    RuntimeCapabilityHints :=
  { hints with entries := hints.entries.retain keep }

def pruneExpired (now : Instant) : RuntimeCapabilityHints :=
  hints.retain fun _ entry => now < entry.expiresAt

def remove (key : CapabilityHintKey) : RuntimeCapabilityHints :=
  { hints with entries := hints.entries.erase key }

-- Evicts the entry with the first deadline when there is no place for one more.
def makeRoom : RuntimeCapabilityHints :=
  if hints.capacity ≤ hints.len then
    match hints.entries.entries.argmin fun entry => entry.2.expiresAt with
    | some oldest => hints.remove oldest.1
    | none => hints
  else hints

def insert (key : CapabilityHintKey) (configurationFingerprint : String) (now : Instant) :
    Bool × RuntimeCapabilityHints :=
  let hints := hints.pruneExpired now
  let entry : RuntimeCapabilityHintEntry := ⟨configurationFingerprint, now + hints.ttl⟩
  match hints.entries.lookup key with
  | some known =>
    (known.configurationFingerprint ≠ configurationFingerprint,
      { hints with entries := hints.entries.modify key fun _ => entry })
  | none =>
    let hints := hints.makeRoom
    (true, { hints with entries := hints.entries.insert key entry })

def isActive (key : CapabilityHintKey) (configurationFingerprint : String) (now : Instant) :
    Bool × RuntimeCapabilityHints :=
  let hints := hints.pruneExpired now
  match hints.entries.lookup key with
  | some entry =>
    if entry.configurationFingerprint = configurationFingerprint then (true, hints)
    else (false, hints.remove key)
  | none => (false, hints)

def clearProfile (profile : DialectProfileKey) (configurationFingerprint : String) :
    RuntimeCapabilityHints :=
  hints.retain fun key entry =>
    key.profile ≠ profile || entry.configurationFingerprint ≠ configurationFingerprint

def clearFeaturesForSuccess (profile : DialectProfileKey) (configurationFingerprint : String)
    (capabilities : Finset Capability) (requestedValue : Option String) :
    RuntimeCapabilityHints :=
  hints.retain fun key entry =>
    if key.profile ≠ profile ∨ entry.configurationFingerprint ≠ configurationFingerprint then true
    else
      match key.discriminator with
      | .feature capability value =>
        if capability ∈ capabilities then value ≠ requestedValue else true
      | .protocol => true

def clearAfterConclusiveProbe (profile : DialectProfileKey) (configurationFingerprint : String)
    (capabilities : Finset Capability) : RuntimeCapabilityHints :=
  hints.retain fun key entry =>
    if key.profile ≠ profile ∨ entry.configurationFingerprint ≠ configurationFingerprint then true
    else
      match key.discriminator with
      | .feature capability _ => capability ∉ capabilities
      | .protocol => false

def retainCurrent (isCurrent : CapabilityHintKey → String → Bool) (now : Instant) :
    RuntimeCapabilityHints :=
  (hints.pruneExpired now).retain fun key entry => isCurrent key entry.configurationFingerprint

def snapshot (now : Instant) : RuntimeCapabilityHintSnapshot × RuntimeCapabilityHints :=
  let hints := hints.pruneExpired now
  (⟨hints.entries.entries.map fun entry => (entry.1, entry.2.configurationFingerprint)⟩, hints)

end RuntimeCapabilityHints

namespace RuntimeCapabilityHints

variable (hints : RuntimeCapabilityHints)

theorem retain_keeps {keep : CapabilityHintKey → RuntimeCapabilityHintEntry → Bool}
    {key : CapabilityHintKey} {entry : RuntimeCapabilityHintEntry}
    (found : (hints.retain keep).entries.lookup key = some entry) :
    hints.entries.lookup key = some entry ∧ keep key entry = true := by
  rw [retain, Table.lookup_retain, Option.filter_eq_some_iff] at found
  exact found

theorem remove_keeps {removed key : CapabilityHintKey} {entry : RuntimeCapabilityHintEntry}
    (found : (hints.remove removed).entries.lookup key = some entry) :
    hints.entries.lookup key = some entry := by
  rw [remove, Table.lookup_erase_eq] at found
  split at found
  · simp at found
  · exact found

theorem len_retain (keep : CapabilityHintKey → RuntimeCapabilityHintEntry → Bool) :
    (hints.retain keep).len ≤ hints.len :=
  List.length_filter_le _ _

theorem len_remove (key : CapabilityHintKey) : (hints.remove key).len ≤ hints.len := by
  have split := hints.entries.total_erase key fun _ _ => 1
  rw [Table.total_one, Table.total_one] at split
  simp only [len, remove]
  omega

theorem len_remove_stored {key : CapabilityHintKey} {entry : RuntimeCapabilityHintEntry}
    (stored : hints.entries.lookup key = some entry) :
    (hints.remove key).len + 1 = hints.len := by
  have split := hints.entries.total_erase key fun _ _ => 1
  rw [Table.total_one, Table.total_one, stored] at split
  simpa [len, remove] using split

theorem makeRoom_keeps {key : CapabilityHintKey} {entry : RuntimeCapabilityHintEntry}
    (found : hints.makeRoom.entries.lookup key = some entry) :
    hints.entries.lookup key = some entry := by
  unfold makeRoom at found
  split at found
  · split at found
    · exact hints.remove_keeps found
    · exact found
  · exact found

theorem len_makeRoom (bounded : hints.len ≤ hints.capacity) (positive : 0 < hints.capacity) :
    hints.makeRoom.len < hints.capacity := by
  unfold makeRoom
  split
  next full =>
    split
    next oldest found =>
      have stored : hints.entries.lookup oldest.1 = some oldest.2 :=
        AList.mem_lookup_iff.2 (List.argmin_mem found)
      have fewer := hints.len_remove_stored stored
      omega
    next absent =>
      -- A full store is not empty, so there is a first deadline.
      have empty : hints.len = 0 := by simpa [len] using List.argmin_eq_none.1 absent
      omega
  next free => omega

@[simp] theorem makeRoom_ttl : hints.makeRoom.ttl = hints.ttl := by
  unfold makeRoom
  split
  · split <;> rfl
  · rfl

@[simp] theorem makeRoom_capacity : hints.makeRoom.capacity = hints.capacity := by
  unfold makeRoom
  split
  · split <;> rfl
  · rfl

theorem insert_cases (key : CapabilityHintKey) (fingerprint : String) (now : Instant) :
    (((hints.pruneExpired now).entries.lookup key).isSome ∧
      (hints.insert key fingerprint now).2 =
        { hints.pruneExpired now with
          entries := (hints.pruneExpired now).entries.modify key
            fun _ => ⟨fingerprint, now + hints.ttl⟩ }) ∨
    (hints.insert key fingerprint now).2 =
      { (hints.pruneExpired now).makeRoom with
        entries := (hints.pruneExpired now).makeRoom.entries.insert key
          ⟨fingerprint, now + hints.ttl⟩ } := by
  cases known : (hints.pruneExpired now).entries.lookup key with
  | some entry => exact .inl ⟨rfl, by simp only [insert, known]; rfl⟩
  | none => exact .inr (by simp only [insert, known]; rfl)

theorem insert_stores {key other : CapabilityHintKey} {fingerprint : String} {now : Instant}
    {entry : RuntimeCapabilityHintEntry}
    (found : (hints.insert key fingerprint now).2.entries.lookup other = some entry) :
    if other = key then entry = ⟨fingerprint, now + hints.ttl⟩
    else hints.entries.lookup other = some entry := by
  by_cases own : other = key
  · subst own
    rw [if_pos rfl]
    rcases hints.insert_cases other fingerprint now with ⟨known, result⟩ | result
    · obtain ⟨past, known⟩ := Option.isSome_iff_exists.1 known
      rw [result, Table.lookup_modify_self, known] at found
      exact (Option.some.inj found).symm
    · rw [result, AList.lookup_insert] at found
      exact (Option.some.inj found).symm
  · rw [if_neg own]
    rcases hints.insert_cases key fingerprint now with ⟨-, result⟩ | result
    · rw [result, Table.lookup_modify_ne _ own] at found
      exact (hints.retain_keeps found).1
    · rw [result, AList.lookup_insert_ne own] at found
      exact (hints.retain_keeps (makeRoom_keeps _ found)).1

theorem insert_len {now : Instant} (bounded : hints.len ≤ hints.capacity)
    (positive : 0 < hints.capacity) (key : CapabilityHintKey) (fingerprint : String) :
    (hints.insert key fingerprint now).2.len ≤ hints.capacity := by
  have pruned : (hints.pruneExpired now).len ≤ hints.capacity :=
    (hints.len_retain _).trans bounded
  rcases hints.insert_cases key fingerprint now with ⟨-, result⟩ | result
  · rw [result]
    simpa [len, Table.modify, Table.mapEntries] using pruned
  · have room : (hints.pruneExpired now).makeRoom.len < hints.capacity :=
      (hints.pruneExpired now).len_makeRoom pruned positive
    have removed := (hints.pruneExpired now).makeRoom.len_remove key
    have added := (hints.pruneExpired now).makeRoom.entries.total_insert key
      ⟨fingerprint, now + hints.ttl⟩ fun _ _ => 1
    rw [Table.total_one, Table.total_one] at added
    simp only [len, remove] at removed room
    rw [result]
    simp only [len]
    omega

theorem insert_limits (key : CapabilityHintKey) (fingerprint : String) (now : Instant) :
    (hints.insert key fingerprint now).2.capacity = hints.capacity ∧
      (hints.insert key fingerprint now).2.ttl = hints.ttl := by
  rcases hints.insert_cases key fingerprint now with ⟨-, result⟩ | result
  · rw [result]
    exact ⟨rfl, rfl⟩
  · rw [result]
    exact ⟨makeRoom_capacity _, makeRoom_ttl _⟩

theorem isActive_cases (key : CapabilityHintKey) (fingerprint : String) (now : Instant) :
    (hints.isActive key fingerprint now).2 = hints.pruneExpired now ∨
      (hints.isActive key fingerprint now).2 = (hints.pruneExpired now).remove key := by
  cases known : (hints.pruneExpired now).entries.lookup key with
  | some entry =>
    by_cases same : entry.configurationFingerprint = fingerprint
    · exact .inl (by simp only [isActive, known, same, if_true])
    · exact .inr (by simp only [isActive, known, same, if_false])
  | none => exact .inl (by simp only [isActive, known])

theorem isActive_keeps {key other : CapabilityHintKey} {fingerprint : String} {now : Instant}
    {entry : RuntimeCapabilityHintEntry}
    (found : (hints.isActive key fingerprint now).2.entries.lookup other = some entry) :
    hints.entries.lookup other = some entry := by
  rcases hints.isActive_cases key fingerprint now with result | result
  · rw [result] at found
    exact (hints.retain_keeps found).1
  · rw [result] at found
    exact (hints.retain_keeps (remove_keeps _ found)).1

theorem isActive_len (key : CapabilityHintKey) (fingerprint : String) (now : Instant) :
    (hints.isActive key fingerprint now).2.len ≤ hints.len := by
  have pruned : (hints.pruneExpired now).len ≤ hints.len := hints.len_retain _
  rcases hints.isActive_cases key fingerprint now with result | result
  · rw [result]
    exact pruned
  · rw [result]
    exact (len_remove _ key).trans pruned

theorem isActive_limits (key : CapabilityHintKey) (fingerprint : String) (now : Instant) :
    (hints.isActive key fingerprint now).2.capacity = hints.capacity ∧
      (hints.isActive key fingerprint now).2.ttl = hints.ttl := by
  rcases hints.isActive_cases key fingerprint now with result | result
  · rw [result]
    exact ⟨rfl, rfl⟩
  · rw [result]
    exact ⟨rfl, rfl⟩

theorem isActive_reports {key : CapabilityHintKey} {fingerprint : String} {now : Instant}
    (active : (hints.isActive key fingerprint now).1 = true) :
    ∃ entry, hints.entries.lookup key = some entry ∧
      entry.configurationFingerprint = fingerprint ∧ now < entry.expiresAt := by
  cases known : (hints.pruneExpired now).entries.lookup key with
  | some entry =>
    obtain ⟨stored, fresh⟩ := hints.retain_keeps known
    by_cases same : entry.configurationFingerprint = fingerprint
    · exact ⟨entry, stored, same, by simpa using fresh⟩
    · simp [isActive, known, same] at active
  | none => simp [isActive, known] at active

theorem snapshot_reports {key : CapabilityHintKey} {fingerprint : String} {now : Instant} :
    (key, fingerprint) ∈ (hints.snapshot now).1.entries ↔
      ∃ entry, hints.entries.lookup key = some entry ∧
        entry.configurationFingerprint = fingerprint ∧ now < entry.expiresAt := by
  have stored : ∀ entry, ⟨key, entry⟩ ∈ (hints.pruneExpired now).entries.entries ↔
      hints.entries.lookup key = some entry ∧ now < entry.expiresAt := by
    intro entry
    rw [← AList.mem_lookup_iff, Option.mem_def, pruneExpired, retain, Table.lookup_retain,
      Option.filter_eq_some_iff, decide_eq_true_eq]
  constructor
  · intro listed
    obtain ⟨⟨key, entry⟩, known, same⟩ := List.mem_map.1 listed
    cases same
    obtain ⟨stored, fresh⟩ := (stored entry).1 known
    exact ⟨entry, stored, rfl, fresh⟩
  · rintro ⟨entry, known, rfl, fresh⟩
    exact List.mem_map.2 ⟨⟨key, entry⟩, (stored entry).2 ⟨known, fresh⟩, rfl⟩

end RuntimeCapabilityHints

inductive HintOperation where
  | insert (key : CapabilityHintKey) (configurationFingerprint : String)
  | isActive (key : CapabilityHintKey) (configurationFingerprint : String)
  | remove (key : CapabilityHintKey)
  | clearProfile (profile : DialectProfileKey) (configurationFingerprint : String)
  | clearFeaturesForSuccess (profile : DialectProfileKey) (configurationFingerprint : String)
    (capabilities : Finset Capability) (requestedValue : Option String)
  | clearAfterConclusiveProbe (profile : DialectProfileKey) (configurationFingerprint : String)
    (capabilities : Finset Capability)
  | retainCurrent (isCurrent : CapabilityHintKey → String → Bool)
  | snapshot

def HintOperation.apply (operation : HintOperation) (now : Instant)
    (hints : RuntimeCapabilityHints) : RuntimeCapabilityHints :=
  match operation with
  | .insert key fingerprint => (hints.insert key fingerprint now).2
  | .isActive key fingerprint => (hints.isActive key fingerprint now).2
  | .remove key => hints.remove key
  | .clearProfile profile fingerprint => hints.clearProfile profile fingerprint
  | .clearFeaturesForSuccess profile fingerprint capabilities requestedValue =>
    hints.clearFeaturesForSuccess profile fingerprint capabilities requestedValue
  | .clearAfterConclusiveProbe profile fingerprint capabilities =>
    hints.clearAfterConclusiveProbe profile fingerprint capabilities
  | .retainCurrent isCurrent => hints.retainCurrent isCurrent now
  | .snapshot => (hints.snapshot now).2

structure HintInsertion where
  key : CapabilityHintKey
  configurationFingerprint : String
  time : Instant

def HintOperation.insertion (operation : HintOperation) (now : Instant) : List HintInsertion :=
  match operation with
  | .insert key fingerprint => [⟨key, fingerprint, now⟩]
  | _ => []

structure HintSystem where
  hints : RuntimeCapabilityHints
  now : Instant := 0
  insertions : List HintInsertion := []

namespace HintSystem

def Initial (system : HintSystem) : Prop :=
  (∃ capacity ttl, system.hints = .new capacity ttl) ∧ system.insertions = []

def perform (system : HintSystem) (operation : HintOperation) (now : Instant) : HintSystem where
  hints := operation.apply now system.hints
  now := now
  insertions := system.insertions ++ operation.insertion now

inductive Step : HintSystem → Option HintOperation → HintSystem → Prop
  | operate (system : HintSystem) (operation : HintOperation) (now : Instant)
      (forward : system.now ≤ now) : Step system (some operation) (system.perform operation now)
  | reorder (system : HintSystem) (entries : Table CapabilityHintKey RuntimeCapabilityHintEntry)
      (same : system.hints.entries.Reordered entries) :
      Step system none { system with hints := { system.hints with entries := entries } }

abbrev Reachable : HintSystem → Prop :=
  Transition.Reachable Initial Step

def lastInsertion (system : HintSystem) (key : CapabilityHintKey) : Option (String × Instant) :=
  lastSome (fun insertion =>
    if insertion.key = key then some (insertion.configurationFingerprint, insertion.time) else none)
    system.insertions

def InForce (system : HintSystem) (now : Instant) (key : CapabilityHintKey)
    (configurationFingerprint : String) : Prop :=
  ∃ time, system.lastInsertion key = some (configurationFingerprint, time) ∧
    now < time + system.hints.ttl

structure Sound (system : HintSystem) : Prop where
  positive : 0 < system.hints.capacity
  bounded : system.hints.len ≤ system.hints.capacity
  recorded : ∀ key entry, system.hints.entries.lookup key = some entry →
    ∃ time, system.lastInsertion key = some (entry.configurationFingerprint, time) ∧
      entry.expiresAt = time + system.hints.ttl

theorem lastInsertion_perform (system : HintSystem) (operation : HintOperation) (now : Instant)
    (key : CapabilityHintKey) :
    (system.perform operation now).lastInsertion key =
      (lastSome (fun insertion : HintInsertion =>
        if insertion.key = key then some (insertion.configurationFingerprint, insertion.time)
        else none) (operation.insertion now)).or (system.lastInsertion key) :=
  lastSome_append _ system.insertions _

theorem len_apply {hints : RuntimeCapabilityHints} (bounded : hints.len ≤ hints.capacity)
    (positive : 0 < hints.capacity) (operation : HintOperation) (now : Instant) :
    (operation.apply now hints).len ≤ hints.capacity := by
  cases operation with
  | insert key fingerprint => exact hints.insert_len bounded positive key fingerprint
  | isActive key fingerprint => exact (hints.isActive_len key fingerprint now).trans bounded
  | remove key => exact (hints.len_remove key).trans bounded
  | retainCurrent isCurrent =>
    exact ((hints.pruneExpired now).len_retain _).trans ((hints.len_retain _).trans bounded)
  | clearProfile | clearFeaturesForSuccess | clearAfterConclusiveProbe | snapshot =>
    exact (hints.len_retain _).trans bounded

theorem limits_apply (hints : RuntimeCapabilityHints) (operation : HintOperation) (now : Instant) :
    (operation.apply now hints).capacity = hints.capacity ∧
      (operation.apply now hints).ttl = hints.ttl := by
  cases operation with
  | insert key fingerprint => exact hints.insert_limits key fingerprint now
  | isActive key fingerprint => exact hints.isActive_limits key fingerprint now
  | _ => exact ⟨rfl, rfl⟩

-- Only an insertion under the key writes its entry; every other call keeps it or drops it.
theorem lookup_apply {hints : RuntimeCapabilityHints} {operation : HintOperation} {now : Instant}
    {key : CapabilityHintKey} {entry : RuntimeCapabilityHintEntry}
    (found : (operation.apply now hints).entries.lookup key = some entry) :
    operation.insertion now = [⟨key, entry.configurationFingerprint, now⟩] ∧
        entry.expiresAt = now + hints.ttl ∨
      hints.entries.lookup key = some entry ∧
        ∀ insertion ∈ operation.insertion now, insertion.key ≠ key := by
  cases operation with
  | insert other fingerprint =>
    have stored := hints.insert_stores found
    by_cases own : key = other
    · subst own
      rw [if_pos rfl] at stored
      subst stored
      exact .inl ⟨rfl, rfl⟩
    · rw [if_neg own] at stored
      refine .inr ⟨stored, fun insertion known => ?_⟩
      rw [List.mem_singleton.1 known]
      exact Ne.symm own
  | isActive other fingerprint =>
    exact .inr ⟨hints.isActive_keeps found, by simp [HintOperation.insertion]⟩
  | remove other => exact .inr ⟨hints.remove_keeps found, by simp [HintOperation.insertion]⟩
  | retainCurrent isCurrent =>
    have pruned := ((hints.pruneExpired now).retain_keeps found).1
    exact .inr ⟨(hints.retain_keeps pruned).1, by simp [HintOperation.insertion]⟩
  | clearProfile | clearFeaturesForSuccess | clearAfterConclusiveProbe | snapshot =>
    exact .inr ⟨(hints.retain_keeps found).1, by simp [HintOperation.insertion]⟩

theorem Sound.perform {system : HintSystem} (sound : Sound system) (operation : HintOperation)
    (now : Instant) : Sound (system.perform operation now) := by
  obtain ⟨sameCapacity, sameTtl⟩ := limits_apply system.hints operation now
  constructor
  · exact sameCapacity ▸ sound.positive
  · exact sameCapacity ▸ len_apply sound.bounded sound.positive operation now
  · intro key entry found
    rcases lookup_apply found with ⟨written, deadline⟩ | ⟨kept, others⟩
    · refine ⟨now, ?_, by rw [deadline]; exact congrArg (now + ·) sameTtl.symm⟩
      rw [lastInsertion_perform, written]
      simp [lastSome]
    · obtain ⟨time, last, deadline⟩ := sound.recorded key entry kept
      have silent : lastSome (fun insertion : HintInsertion =>
          if insertion.key = key then some (insertion.configurationFingerprint, insertion.time)
          else none) (operation.insertion now) = none :=
        lastSome_eq_none.2 fun insertion known => if_neg (others insertion known)
      refine ⟨time, by rw [lastInsertion_perform, silent, Option.none_or, last], ?_⟩
      rw [deadline]
      exact congrArg (time + ·) sameTtl.symm

theorem Step.sound {before after : HintSystem} {label : Option HintOperation}
    (step : Step before label after) (sound : Sound before) : Sound after := by
  cases step with
  | operate operation now forward => exact sound.perform operation now
  | reorder entries same =>
    constructor
    · exact sound.positive
    · exact (Nat.le_of_eq same.length_eq.symm).trans sound.bounded
    · intro key entry found
      exact sound.recorded key entry (by rw [← same.lookup key]; exact found)

theorem Reachable.sound {system : HintSystem} (reachable : Reachable system) : Sound system := by
  refine reachable.invariant Sound (fun first initial => ?_)
    fun _ _ _ step sound => step.sound sound
  obtain ⟨⟨capacity, ttl, fresh⟩, -⟩ := initial
  constructor
  · rw [fresh]
    exact Nat.lt_of_lt_of_le Nat.zero_lt_one (Nat.le_max_right capacity 1)
  · rw [fresh]
    exact Nat.zero_le _
  · intro key entry found
    rw [fresh] at found
    simp [RuntimeCapabilityHints.new] at found

theorem Sound.inForce {system : HintSystem} (sound : Sound system) {key : CapabilityHintKey}
    {fingerprint : String} {now : Instant}
    (held : ∃ entry, system.hints.entries.lookup key = some entry ∧
      entry.configurationFingerprint = fingerprint ∧ now < entry.expiresAt) :
    system.InForce now key fingerprint := by
  obtain ⟨entry, found, rfl, fresh⟩ := held
  obtain ⟨time, last, deadline⟩ := sound.recorded key entry found
  exact ⟨time, last, deadline ▸ fresh⟩

end HintSystem

namespace RuntimeCapabilityHints

theorem mem_blockedFeatures {snapshot : RuntimeCapabilityHintSnapshot}
    {profile : DialectProfileKey} {fingerprint : String} {requested : Option String}
    {capability : Capability} {value : Option String} :
    (capability, value) ∈ snapshot.blockedFeatures profile fingerprint requested ↔
      (CapabilityHintKey.ofFeature profile capability value, fingerprint) ∈ snapshot.entries ∧
        (value = none ∨ value = requested) := by
  have matching : (value.all fun value => some value = requested) = true ↔
      value = none ∨ value = requested := by
    cases value <;> simp
  constructor
  · intro listed
    obtain ⟨⟨⟨owner, discriminator⟩, stored⟩, known, found⟩ := List.mem_filterMap.1 listed
    unfold RuntimeCapabilityHintSnapshot.blocked at found
    split at found
    · simp at found
    · next own =>
      push Not at own
      obtain ⟨rfl, rfl⟩ := own
      cases discriminator with
      | feature other wanted =>
        obtain ⟨matched, same⟩ := Option.ite_none_right_eq_some.1 found
        obtain ⟨rfl, rfl⟩ := Prod.mk.inj (Option.some.inj same)
        exact ⟨known, matching.1 matched⟩
      | protocol => simp at found
  · rintro ⟨known, wanted⟩
    refine List.mem_filterMap.2 ⟨_, known, ?_⟩
    simp [RuntimeCapabilityHintSnapshot.blocked, CapabilityHintKey.ofFeature, matching.2 wanted]

variable {hints : RuntimeCapabilityHints} {profile : DialectProfileKey} {fingerprint : String}
  {capabilities : Finset Capability} {requested : Option String}

theorem lookup_cleared {capability : Capability} (listed : capability ∈ capabilities)
    {value : Option String} {entry : RuntimeCapabilityHintEntry}
    (own : entry.configurationFingerprint = fingerprint) :
    (hints.clearFeaturesForSuccess profile fingerprint capabilities requested).entries.lookup
        (.ofFeature profile capability value) = some entry ↔
      hints.entries.lookup (.ofFeature profile capability value) = some entry ∧
        value ≠ requested := by
  rw [clearFeaturesForSuccess, retain, Table.lookup_retain, Option.filter_eq_some_iff]
  simp [CapabilityHintKey.ofFeature, own, listed]

-- A success clears the hints for its own value, so only one without a value is left to block.
theorem unblocked_iff (now : Instant) :
    (∀ blocked ∈ ((hints.clearFeaturesForSuccess profile fingerprint capabilities
        requested).snapshot now).1.blockedFeatures profile fingerprint requested,
      blocked.1 ∉ capabilities) ↔
    requested = none ∨ ∀ capability ∈ capabilities, ∀ entry,
      hints.entries.lookup (.ofFeature profile capability none) = some entry →
      entry.configurationFingerprint = fingerprint → entry.expiresAt ≤ now := by
  constructor
  · intro healed
    refine or_iff_not_imp_left.2 fun valued capability listed entry found own => ?_
    by_contra fresh
    have held : (hints.clearFeaturesForSuccess profile fingerprint capabilities
        requested).entries.lookup (.ofFeature profile capability none) = some entry :=
      (lookup_cleared listed own).2 ⟨found, Ne.symm valued⟩
    have reported := (snapshot_reports _).2 ⟨entry, held, own, Nat.lt_of_not_le fresh⟩
    exact healed (capability, none) (mem_blockedFeatures.2 ⟨reported, .inl rfl⟩) listed
  · rintro disproved ⟨capability, value⟩ listed known
    obtain ⟨reported, wanted⟩ := mem_blockedFeatures.1 listed
    obtain ⟨entry, held, own, fresh⟩ := (snapshot_reports _).1 reported
    obtain ⟨stored, other⟩ := (lookup_cleared known own).1 held
    have valueless : value = none := wanted.resolve_right other
    subst valueless
    rcases disproved with unvalued | expired
    · exact other unvalued.symm
    · exact Nat.not_lt.2 (expired capability known entry stored own) fresh

end RuntimeCapabilityHints

/-- In every run the hints are bounded and in force, and a success heals unless its value meets
a fresh hint without one. -/
theorem runtime_hints_heal (system : HintSystem) (reachable : system.Reachable) (now : Instant) :
    system.hints.len ≤ system.hints.capacity ∧
      (∀ key fingerprint, (key, fingerprint) ∈ (system.hints.snapshot now).1.entries →
        system.InForce now key fingerprint) ∧
      (∀ key fingerprint, (system.hints.isActive key fingerprint now).1 = true →
        system.InForce now key fingerprint) ∧
      ∀ profile fingerprint (capabilities : Finset Capability) (requested : Option String),
        (∀ blocked ∈ ((system.hints.clearFeaturesForSuccess profile fingerprint capabilities
            requested).snapshot now).1.blockedFeatures profile fingerprint requested,
          blocked.1 ∉ capabilities) ↔
        requested = none ∨ ∀ capability ∈ capabilities, ∀ entry,
          system.hints.entries.lookup (.ofFeature profile capability none) = some entry →
          entry.configurationFingerprint = fingerprint → entry.expiresAt ≤ now := by
  have sound := reachable.sound
  refine ⟨sound.bounded, fun key fingerprint reported => ?_, fun key fingerprint active => ?_,
    fun profile fingerprint capabilities requested => RuntimeCapabilityHints.unblocked_iff now⟩
  · exact sound.inForce (system.hints.snapshot_reports.1 reported)
  · exact sound.inForce (system.hints.isActive_reports active)

namespace HintSystem

def refusedProfile : DialectProfileKey :=
  ⟨"upstream", "key", "model", .chatCompletions⟩

def fresh : HintSystem where
  hints := .new runtimeCapabilityHintCapacity runtimeCapabilityHintTtl

def refused : HintSystem :=
  fresh.perform (.insert (.ofFeature refusedProfile .reasoningOutput none) "fingerprint") 0

theorem refused_reachable : refused.Reachable :=
  ⟨fresh, ⟨⟨_, _, rfl⟩, rfl⟩, .single ⟨_, .operate fresh _ 0 (Nat.le_refl 0), trivial⟩⟩

end HintSystem

theorem runtime_hints_heal_refused :
    HintSystem.refused.hints.len ≤ HintSystem.refused.hints.capacity ∧
      (∀ key fingerprint, (key, fingerprint) ∈ (HintSystem.refused.hints.snapshot 0).1.entries →
        HintSystem.refused.InForce 0 key fingerprint) ∧
      (∀ key fingerprint, (HintSystem.refused.hints.isActive key fingerprint 0).1 = true →
        HintSystem.refused.InForce 0 key fingerprint) ∧
      ∀ profile fingerprint (capabilities : Finset Capability) (requested : Option String),
        (∀ blocked ∈ ((HintSystem.refused.hints.clearFeaturesForSuccess profile fingerprint
            capabilities requested).snapshot 0).1.blockedFeatures profile fingerprint requested,
          blocked.1 ∉ capabilities) ↔
        requested = none ∨ ∀ capability ∈ capabilities, ∀ entry,
          HintSystem.refused.hints.entries.lookup (.ofFeature profile capability none) =
            some entry →
          entry.configurationFingerprint = fingerprint → entry.expiresAt ≤ 0 :=
  runtime_hints_heal HintSystem.refused HintSystem.refused_reachable 0

/-- A success with an effort leaves a hint without one in force, and it blocks the next request. -/
theorem success_leaves_hint :
    HintSystem.refused.Reachable ∧
      (Capability.reasoningOutput, none) ∈
        ((HintSystem.refused.hints.clearFeaturesForSuccess HintSystem.refusedProfile "fingerprint"
            {.reasoningOutput} (some "high")).snapshot 0).1.blockedFeatures
          HintSystem.refusedProfile "fingerprint" (some "high") := by
  refine ⟨HintSystem.refused_reachable, ?_⟩
  decide

end ChatGateway
