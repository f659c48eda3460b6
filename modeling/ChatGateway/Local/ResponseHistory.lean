import ChatGateway.Shared.Json
import ChatGateway.Shared.LastWins
import ChatGateway.Shared.Recency
import ChatGateway.Shared.Table
import ChatGateway.Shared.Transition

set_option autoImplicit false

/-!
# The response history store

Earlier responses of a downstream, kept for a while in the order of their insertion and forgotten
from the front.
-/

namespace ChatGateway

def responseHistoryMaxEntries : Nat := 2048

def responseHistoryTtlSeconds : Nat := 12 * 60 * 60

structure StoredResponseHistory where
  items : List Json
  requestState : List (String × Json)
  createdAt : Nat

structure ResponseHistoryEntry where
  items : List Json
  requestState : List (String × Json)
  createdAt : Nat

def StoredResponseHistory.toEntry (stored : StoredResponseHistory) : ResponseHistoryEntry :=
  ⟨stored.items, stored.requestState, stored.createdAt⟩

abbrev ResponseHistoryKey := String × String

structure ResponseHistoryStore where
  entries : Table ResponseHistoryKey StoredResponseHistory := ∅
  order : List ResponseHistoryKey := []

namespace ResponseHistoryStore

-- A key without an entry counts as expired.
def isExpired (entries : Table ResponseHistoryKey StoredResponseHistory) (now : Nat)
    (key : ResponseHistoryKey) : Bool :=
  ((entries.lookup key).map fun entry =>
    decide (responseHistoryTtlSeconds < now - entry.createdAt)).getD true

def popExpired (now : Nat) (entries : Table ResponseHistoryKey StoredResponseHistory) :
    List ResponseHistoryKey → ResponseHistoryStore
  | [] => ⟨entries, []⟩
  | key :: rest =>
    if isExpired entries now key then popExpired now (entries.erase key) rest
    else ⟨entries, key :: rest⟩

def evictExpired (store : ResponseHistoryStore) (now : Nat) : ResponseHistoryStore :=
  popExpired now store.entries store.order

def popOldest (limit : Nat) (entries : Table ResponseHistoryKey StoredResponseHistory) :
    List ResponseHistoryKey → ResponseHistoryStore
  | [] => ⟨entries, []⟩
  | key :: rest =>
    if limit < (key :: rest).length then popOldest limit (entries.erase key) rest
    else ⟨entries, key :: rest⟩

def put (store : ResponseHistoryStore) (key : ResponseHistoryKey) (stored : StoredResponseHistory) :
    ResponseHistoryStore where
  entries := store.entries.insert key stored
  order := store.order.filter (fun existing => existing ≠ key) ++ [key]

def insert (store : ResponseHistoryStore) (downstreamKeyId responseId : String)
    (items : List Json) (requestState : List (String × Json)) (createdAt now : Nat) :
    ResponseHistoryStore :=
  let store := store.put (downstreamKeyId, responseId) ⟨items, requestState, createdAt⟩
  let store := store.evictExpired now
  popOldest responseHistoryMaxEntries store.entries store.order

def get (store : ResponseHistoryStore) (downstreamKeyId responseId : String) (now : Nat) :
    Option ResponseHistoryEntry × ResponseHistoryStore :=
  let store := store.evictExpired now
  ((store.entries.lookup (downstreamKeyId, responseId)).map StoredResponseHistory.toEntry, store)

variable {now : Nat} {entries : Table ResponseHistoryKey StoredResponseHistory}
  {order : List ResponseHistoryKey}

structure Popped (entries : Table ResponseHistoryKey StoredResponseHistory)
    (popped : List ResponseHistoryKey) (after : ResponseHistoryStore) : Prop where
  lookup : ∀ key, after.entries.lookup key = if key ∈ popped then none else entries.lookup key

theorem Popped.none : Popped entries [] ⟨entries, order⟩ :=
  ⟨fun _ => rfl⟩

theorem Popped.cons {key : ResponseHistoryKey} {popped : List ResponseHistoryKey}
    {after : ResponseHistoryStore} (rest : Popped (entries.erase key) popped after) :
    Popped entries (key :: popped) after := by
  constructor
  intro other
  rw [rest.lookup, Table.lookup_erase_eq]
  by_cases own : other = key
  · simp [own]
  · simp [own]

theorem isExpired_erase {key other : ResponseHistoryKey} (apart : other ≠ key) :
    isExpired (entries.erase key) now other = isExpired entries now other := by
  rw [isExpired, isExpired, AList.lookup_erase_ne apart]

theorem popExpired_pops (now : Nat) (entries : Table ResponseHistoryKey StoredResponseHistory)
    (distinct : order.Nodup) :
    ∃ popped, order = popped ++ (popExpired now entries order).order ∧
      Popped entries popped (popExpired now entries order) ∧
      (∀ key ∈ popped, isExpired entries now key = true) ∧
      ∀ key rest, (popExpired now entries order).order = key :: rest →
        isExpired (popExpired now entries order).entries now key = false := by
  induction order generalizing entries with
  | nil => exact ⟨[], rfl, .none, by simp, by simp [popExpired]⟩
  | cons key rest ih =>
    obtain ⟨absent, distinct⟩ := List.nodup_cons.1 distinct
    by_cases expired : isExpired entries now key
    · rw [popExpired, if_pos expired]
      obtain ⟨popped, split, gone, stale, fresh⟩ := ih (entries.erase key) distinct
      refine ⟨key :: popped, by rw [List.cons_append, ← split], gone.cons, ?_, fresh⟩
      intro other known
      rcases List.mem_cons.1 known with rfl | later
      · exact expired
      · have apart : other ≠ key := by
          rintro rfl
          exact absent (split ▸ List.mem_append_left _ later)
        rw [← isExpired_erase apart]
        exact stale other later
    · rw [popExpired, if_neg expired]
      refine ⟨[], rfl, .none, by simp, fun front others same => ?_⟩
      rw [← (List.cons.inj same).1]
      exact eq_false_of_ne_true expired

theorem popOldest_pops (limit : Nat) (entries : Table ResponseHistoryKey StoredResponseHistory)
    (order : List ResponseHistoryKey) :
    ∃ popped, order = popped ++ (popOldest limit entries order).order ∧
      Popped entries popped (popOldest limit entries order) ∧
      (popOldest limit entries order).order.length = min limit order.length := by
  induction order generalizing entries with
  | nil => exact ⟨[], rfl, .none, by simp [popOldest]⟩
  | cons key rest ih =>
    by_cases full : limit < (key :: rest).length
    · rw [popOldest, if_pos full]
      obtain ⟨popped, split, gone, left⟩ := ih (entries.erase key)
      refine ⟨key :: popped, by rw [List.cons_append, ← split], gone.cons, ?_⟩
      rw [List.length_cons] at full ⊢
      omega
    · rw [popOldest, if_neg full]
      exact ⟨[], rfl, .none, (Nat.min_eq_right (Nat.le_of_not_lt full)).symm⟩

end ResponseHistoryStore

structure HistoryInsertion where
  key : ResponseHistoryKey
  stored : StoredResponseHistory

structure HistorySystem where
  store : ResponseHistoryStore := {}
  now : Nat := 0
  insertions : List HistoryInsertion := []

inductive HistoryOperation where
  | insert (downstreamKeyId responseId : String) (items : List Json)
    (requestState : List (String × Json)) (createdAt : Nat)
  | get (downstreamKeyId responseId : String)

namespace HistorySystem

def uses (insertions : List HistoryInsertion) : List ResponseHistoryKey :=
  insertions.map HistoryInsertion.key

def lastInserted (insertions : List HistoryInsertion) (key : ResponseHistoryKey) :
    Option StoredResponseHistory :=
  lastSome (fun insertion => if insertion.key = key then some insertion.stored else none) insertions

def Stale (insertions : List HistoryInsertion) (now : Nat) (key : ResponseHistoryKey) : Prop :=
  ∃ stored, lastInserted insertions key = some stored ∧
    responseHistoryTtlSeconds < now - stored.createdAt

def insert (system : HistorySystem) (downstreamKeyId responseId : String) (items : List Json)
    (requestState : List (String × Json)) (createdAt now : Nat) : HistorySystem where
  store := system.store.insert downstreamKeyId responseId items requestState createdAt now
  now := now
  insertions :=
    system.insertions ++ [⟨(downstreamKeyId, responseId), ⟨items, requestState, createdAt⟩⟩]

def get (system : HistorySystem) (downstreamKeyId responseId : String) (now : Nat) :
    HistorySystem :=
  { system with store := (system.store.get downstreamKeyId responseId now).2, now := now }

inductive Step : HistorySystem → HistoryOperation → HistorySystem → Prop
  | insert (system : HistorySystem) (downstreamKeyId responseId : String) (items : List Json)
      (requestState : List (String × Json)) (createdAt now : Nat) (forward : system.now ≤ now)
      (past : createdAt ≤ now) :
      Step system (.insert downstreamKeyId responseId items requestState createdAt)
        (system.insert downstreamKeyId responseId items requestState createdAt now)
  | get (system : HistorySystem) (downstreamKeyId responseId : String) (now : Nat)
      (forward : system.now ≤ now) :
      Step system (.get downstreamKeyId responseId) (system.get downstreamKeyId responseId now)

abbrev Reachable : HistorySystem → Prop :=
  Transition.Reachable (fun system => system = {}) Step

structure Tracks (store : ResponseHistoryStore) (insertions : List HistoryInsertion) (now : Nat) :
    Prop where
  forgotten : ∃ gone, Recency.keys (uses insertions) = gone ++ store.order ∧ ∀ key ∈ gone,
    Stale insertions now key ∨ Recency.Superseded responseHistoryMaxEntries (uses insertions) key
  stored : ∀ key, store.entries.lookup key =
    if key ∈ store.order then lastInserted insertions key else none

variable {store : ResponseHistoryStore} {insertions : List HistoryInsertion} {now : Nat}
  {key : ResponseHistoryKey}

theorem lastInserted_append (insertions : List HistoryInsertion) (insertion : HistoryInsertion)
    (key : ResponseHistoryKey) :
    lastInserted (insertions ++ [insertion]) key =
      if key = insertion.key then some insertion.stored else lastInserted insertions key := by
  rw [lastInserted, lastSome_append_singleton]
  by_cases own : insertion.key = key
  · simp [own]
  · simp [own, Ne.symm own, lastInserted]

theorem exists_lastInserted (used : key ∈ uses insertions) :
    ∃ stored, lastInserted insertions key = some stored := by
  obtain ⟨insertion, known, rfl⟩ := List.mem_map.1 used
  cases found : lastInserted insertions insertion.key with
  | some stored => exact ⟨stored, rfl⟩
  | none => simpa using lastSome_eq_none.1 found insertion known

namespace Tracks

theorem nodup (tracks : Tracks store insertions now) : store.order.Nodup := by
  obtain ⟨gone, split, -⟩ := tracks.forgotten
  have distinct := Recency.nodup_keys (uses insertions)
  rw [split] at distinct
  exact (List.nodup_append.1 distinct).2.1

theorem mem_uses (tracks : Tracks store insertions now) (queued : key ∈ store.order) :
    key ∈ uses insertions := by
  obtain ⟨gone, split, -⟩ := tracks.forgotten
  exact Recency.mem_keys.1 (split ▸ List.mem_append_right _ queued)

theorem lookup_queued (tracks : Tracks store insertions now) (queued : key ∈ store.order) :
    store.entries.lookup key = lastInserted insertions key := by
  rw [tracks.stored, if_pos queued]

theorem mem_order_iff (tracks : Tracks store insertions now) :
    key ∈ store.order ↔ key ∈ store.entries := by
  rw [← AList.lookup_isSome, tracks.stored]
  by_cases queued : key ∈ store.order
  · obtain ⟨stored, found⟩ := exists_lastInserted (tracks.mem_uses queued)
    simp [queued, found]
  · simp [queued]

theorem isExpired_iff (tracks : Tracks store insertions now) (queued : key ∈ store.order)
    (time : Nat) :
    ResponseHistoryStore.isExpired store.entries time key = true ↔ Stale insertions time key := by
  obtain ⟨stored, found⟩ := exists_lastInserted (tracks.mem_uses queued)
  simp [ResponseHistoryStore.isExpired, Stale, tracks.lookup_queued queued, found]

theorem later (tracks : Tracks store insertions now) {time : Nat} (forward : now ≤ time) :
    Tracks store insertions time := by
  obtain ⟨gone, split, lost⟩ := tracks.forgotten
  refine ⟨⟨gone, split, fun key known => (lost key known).imp_left ?_⟩, tracks.stored⟩
  rintro ⟨stored, found, old⟩
  exact ⟨stored, found, by omega⟩

theorem put (tracks : Tracks store insertions now) (insertion : HistoryInsertion) :
    Tracks (store.put insertion.key insertion.stored) (insertions ++ [insertion]) now := by
  obtain ⟨gone, split, lost⟩ := tracks.forgotten
  have used : uses (insertions ++ [insertion]) = uses insertions ++ [insertion.key] := by
    simp [uses]
  constructor
  · refine ⟨gone.filter fun known => known ≠ insertion.key, ?_, fun key known => ?_⟩
    · rw [used, Recency.keys_append_singleton, split, List.filter_append, List.append_assoc]
      rfl
    · obtain ⟨known, other⟩ := List.mem_filter.1 known
      have apart : key ≠ insertion.key := by simpa using other
      rcases lost key known with ⟨stored, found, old⟩ | superseded
      · exact .inl ⟨stored, by rw [lastInserted_append, if_neg apart, found], old⟩
      · rw [used]
        exact .inr (superseded.use apart)
  · intro key
    simp only [ResponseHistoryStore.put, Table.lookup_insert_eq, lastInserted_append,
      tracks.stored]
    by_cases own : key = insertion.key <;> simp [own]

-- Popping keeps the track when each popped key is stale, or many keys were used after it.
theorem pop (tracks : Tracks store insertions now) {popped : List ResponseHistoryKey}
    {after : ResponseHistoryStore} (split : store.order = popped ++ after.order)
    (gone : ResponseHistoryStore.Popped store.entries popped after)
    (lost : ∀ key ∈ popped, Stale insertions now key ∨
      Recency.Superseded responseHistoryMaxEntries (uses insertions) key) :
    Tracks after insertions now := by
  obtain ⟨past, listed, before⟩ := tracks.forgotten
  constructor
  · refine ⟨past ++ popped, by rw [listed, split, List.append_assoc], fun key known => ?_⟩
    exact (List.mem_append.1 known).elim (before key) (lost key)
  · intro key
    have distinct := tracks.nodup
    rw [split] at distinct
    have apart := (List.nodup_append.1 distinct).2.2
    rw [gone.lookup, tracks.stored, split]
    by_cases removed : key ∈ popped
    · have dropped : key ∉ after.order := fun kept => apart key removed key kept rfl
      simp [removed, dropped]
    · simp [removed]

theorem evictExpired (tracks : Tracks store insertions now) :
    Tracks (store.evictExpired now) insertions now := by
  obtain ⟨popped, split, gone, expired, -⟩ :=
    ResponseHistoryStore.popExpired_pops now store.entries tracks.nodup
  refine tracks.pop split gone fun key known => .inl ?_
  exact (tracks.isExpired_iff (split ▸ List.mem_append_left _ known) now).1 (expired key known)

theorem length_evictExpired (tracks : Tracks store insertions now) (time : Nat) :
    (store.evictExpired time).order.length ≤ store.order.length := by
  obtain ⟨popped, split, -⟩ :=
    ResponseHistoryStore.popExpired_pops time store.entries tracks.nodup
  have total := congrArg List.length split
  rw [List.length_append] at total
  exact total ▸ Nat.le_add_left _ _

theorem front_fresh (tracks : Tracks store insertions now) {front : ResponseHistoryKey}
    {rest : List ResponseHistoryKey} (first : (store.evictExpired now).order = front :: rest) :
    ¬ Stale insertions now front := by
  obtain ⟨popped, -, -, -, fresh⟩ :=
    ResponseHistoryStore.popExpired_pops now store.entries tracks.nodup
  have queued : front ∈ (store.evictExpired now).order := by simp [first]
  rw [← tracks.evictExpired.isExpired_iff queued now]
  exact ne_true_of_eq_false (fresh front rest first)

theorem length_entries (tracks : Tracks store insertions now) :
    store.entries.entries.length ≤ store.order.length := by
  have listed : store.entries.keys ⊆ store.order := fun key stored =>
    tracks.mem_order_iff.2 (AList.mem_keys.1 stored)
  have fewer := (List.subperm_of_subset store.entries.keys_nodup listed).length_le
  rwa [AList.keys, List.keys, List.length_map] at fewer

theorem popOldest (tracks : Tracks store insertions now) :
    Tracks (ResponseHistoryStore.popOldest responseHistoryMaxEntries store.entries store.order)
      insertions now := by
  obtain ⟨popped, split, gone, left⟩ := ResponseHistoryStore.popOldest_pops
    responseHistoryMaxEntries store.entries store.order
  generalize ResponseHistoryStore.popOldest responseHistoryMaxEntries store.entries store.order =
    after at split gone left ⊢
  obtain ⟨past, listed, -⟩ := tracks.forgotten
  refine tracks.pop split gone fun key known => .inr ?_
  obtain ⟨before, behind, rfl⟩ := List.append_of_mem known
  refine ⟨past ++ before, behind ++ after.order, ?_, ?_⟩
  · rw [listed, split, List.append_assoc, List.append_assoc, List.cons_append]
  · have total := congrArg List.length split
    simp only [List.length_append, List.length_cons] at total ⊢
    omega

end Tracks

structure Sound (system : HistorySystem) : Prop where
  tracks : Tracks system.store system.insertions system.now
  bounded : system.store.order.length ≤ responseHistoryMaxEntries

theorem Step.sound {before after : HistorySystem} {operation : HistoryOperation}
    (step : Step before operation after) (sound : Sound before) : Sound after := by
  cases step with
  | insert downstreamKeyId responseId items requestState createdAt now forward past =>
    have evicted := ((sound.tracks.later forward).put
      ⟨(downstreamKeyId, responseId), ⟨items, requestState, createdAt⟩⟩).evictExpired
    obtain ⟨popped, split, gone, left⟩ := ResponseHistoryStore.popOldest_pops
      responseHistoryMaxEntries _ _
    exact ⟨evicted.popOldest, left ▸ Nat.min_le_left _ _⟩
  | get downstreamKeyId responseId now forward =>
    exact ⟨(sound.tracks.later forward).evictExpired,
      (sound.tracks.length_evictExpired now).trans sound.bounded⟩

theorem Reachable.sound {system : HistorySystem} (reachable : Reachable system) : Sound system := by
  refine reachable.invariant Sound (fun first initial => ?_) fun _ _ _ step => step.sound
  subst initial
  exact ⟨⟨⟨[], rfl, by simp⟩, fun _ => rfl⟩, Nat.zero_le _⟩

def Shielded (insertions : List HistoryInsertion) (now : Nat) (key : ResponseHistoryKey) : Prop :=
  ∃ other ∈ Recency.latest responseHistoryMaxEntries (uses insertions),
    [other, key].Sublist (Recency.keys (uses insertions)) ∧ ¬ Stale insertions now other

namespace Tracks

theorem mem_latest (tracks : Tracks store insertions now)
    (bounded : store.order.length ≤ responseHistoryMaxEntries) (queued : key ∈ store.order) :
    key ∈ Recency.latest responseHistoryMaxEntries (uses insertions) := by
  obtain ⟨gone, split, -⟩ := tracks.forgotten
  exact Recency.mem_latest split bounded queued

theorem queued_of_fresh (tracks : Tracks store insertions now)
    (recent : key ∈ Recency.latest responseHistoryMaxEntries (uses insertions))
    (fresh : ¬ Stale insertions now key) :
    ∃ gone, Recency.keys (uses insertions) = gone ++ store.order ∧ key ∉ gone := by
  obtain ⟨gone, split, lost⟩ := tracks.forgotten
  refine ⟨gone, split, fun known => ?_⟩
  rcases lost key known with stale | superseded
  · exact fresh stale
  · exact superseded.notMem_latest recent

theorem lookup_evicted (tracks : Tracks store insertions now) {stored : StoredResponseHistory}
    (found : (store.evictExpired now).entries.lookup key = some stored) :
    key ∈ (store.evictExpired now).order ∧ lastInserted insertions key = some stored := by
  rw [tracks.evictExpired.stored] at found
  split at found
  next queued => exact ⟨queued, found⟩
  next => simp at found

theorem lookup_fresh (tracks : Tracks store insertions now) {stored : StoredResponseHistory}
    (last : lastInserted insertions key = some stored)
    (young : now - stored.createdAt ≤ responseHistoryTtlSeconds)
    (recent : key ∈ Recency.latest responseHistoryMaxEntries (uses insertions)) :
    (store.evictExpired now).entries.lookup key = some stored := by
  have fresh : ¬ Stale insertions now key := by
    rintro ⟨other, found, old⟩
    rw [last] at found
    cases found
    omega
  obtain ⟨gone, split, kept⟩ := tracks.evictExpired.queued_of_fresh recent fresh
  have used : key ∈ gone ++ (store.evictExpired now).order := by
    rw [← split, Recency.mem_keys]
    exact Recency.mem_keys.1 (List.mem_of_mem_drop recent)
  rw [tracks.evictExpired.lookup_queued ((List.mem_append.1 used).resolve_left kept), last]

-- Expiry stops at the first fresh key, so what is stale survives exactly behind one.
theorem answers_young_iff (tracks : Tracks store insertions now)
    (bounded : store.order.length ≤ responseHistoryMaxEntries) (key : ResponseHistoryKey) :
    (∀ stored, (store.evictExpired now).entries.lookup key = some stored →
      now - stored.createdAt ≤ responseHistoryTtlSeconds) ↔
    (Stale insertions now key → ¬ Shielded insertions now key) := by
  constructor
  · rintro young ⟨stored, last, old⟩ ⟨other, recent, precedes, fresh⟩
    obtain ⟨gone, split, kept⟩ := tracks.evictExpired.queued_of_fresh recent fresh
    have queued := Recency.mem_after_of_precedes split precedes kept
    have found := (tracks.evictExpired.lookup_queued queued).trans last
    exact Nat.not_lt.2 (young stored found) old
  · intro unshielded stored found
    obtain ⟨queued, last⟩ := tracks.lookup_evicted found
    by_contra old
    have stale : Stale insertions now key := ⟨stored, last, Nat.lt_of_not_le old⟩
    have fits := (tracks.length_evictExpired now).trans bounded
    obtain ⟨gone, split, -⟩ := tracks.evictExpired.forgotten
    -- The queue is not empty, and its front is fresh: the stale key is behind it.
    cases remaining : (store.evictExpired now).order with
    | nil => simp [remaining] at queued
    | cons front rest =>
      have fresh := tracks.front_fresh remaining
      have behind : key ∈ rest := by
        rw [remaining] at queued
        exact (List.mem_cons.1 queued).resolve_left fun same => fresh (same ▸ stale)
      refine unshielded stale ⟨front, ?_, ?_, fresh⟩
      · exact tracks.evictExpired.mem_latest fits (by simp [remaining])
      · rw [split, remaining]
        exact ((List.singleton_sublist.2 behind).cons_cons front).trans
          (List.sublist_append_right gone _)

end Tracks

end HistorySystem

/-- In every run the store keeps what was inserted last, and what is fresh and recent is found.
What is too old is found exactly behind a fresh key. -/
theorem response_history_kept (system : HistorySystem) (reachable : system.Reachable) (now : Nat)
    (forward : system.now ≤ now) :
    system.store.order.Nodup ∧
      (∀ key, key ∈ system.store.order ↔ key ∈ system.store.entries) ∧
      system.store.entries.entries.length ≤ responseHistoryMaxEntries ∧
      ∀ downstreamKeyId responseId,
        (∀ answer, (system.store.get downstreamKeyId responseId now).1 = some answer →
          (HistorySystem.lastInserted system.insertions (downstreamKeyId, responseId)).map
            StoredResponseHistory.toEntry = some answer) ∧
        (∀ stored,
          HistorySystem.lastInserted system.insertions (downstreamKeyId, responseId) =
            some stored →
          now - stored.createdAt ≤ responseHistoryTtlSeconds →
          (downstreamKeyId, responseId) ∈
            Recency.latest responseHistoryMaxEntries (HistorySystem.uses system.insertions) →
          (system.store.get downstreamKeyId responseId now).1 = some stored.toEntry) ∧
        ((∀ answer, (system.store.get downstreamKeyId responseId now).1 = some answer →
            now - answer.createdAt ≤ responseHistoryTtlSeconds) ↔
          (HistorySystem.Stale system.insertions now (downstreamKeyId, responseId) →
            ¬ HistorySystem.Shielded system.insertions now (downstreamKeyId, responseId))) := by
  have sound := reachable.sound
  have tracks := sound.tracks.later forward
  refine ⟨sound.tracks.nodup, fun key => sound.tracks.mem_order_iff,
    sound.tracks.length_entries.trans sound.bounded, fun downstreamKeyId responseId => ⟨?_, ?_, ?_⟩⟩
  · intro answer answered
    obtain ⟨stored, found, rfl⟩ := Option.map_eq_some_iff.1 answered
    rw [(tracks.lookup_evicted found).2, Option.map_some]
  · intro stored last young recent
    exact Option.map_eq_some_iff.2 ⟨stored, tracks.lookup_fresh last young recent, rfl⟩
  · rw [← tracks.answers_young_iff sound.bounded]
    constructor
    · intro young stored found
      exact young stored.toEntry (Option.map_eq_some_iff.2 ⟨stored, found, rfl⟩)
    · intro young answer answered
      obtain ⟨stored, found, rfl⟩ := Option.map_eq_some_iff.1 answered
      exact young stored found

namespace HistorySystem

def reloaded : HistorySystem :=
  (({} : HistorySystem).insert "downstream" "new" [] [] 43200 43200).insert
    "downstream" "old" [] [] 0 43200

theorem reloaded_reachable : reloaded.Reachable := by
  refine ⟨{}, rfl, ?_⟩
  have first : Step {} _ (({} : HistorySystem).insert "downstream" "new" [] [] 43200 43200) :=
    .insert {} "downstream" "new" [] [] 43200 43200 (Nat.zero_le _) (Nat.le_refl _)
  have second : Step _ _ reloaded :=
    .insert _ "downstream" "old" [] [] 0 43200 (Nat.le_refl _) (Nat.zero_le _)
  exact .tail (.single ⟨_, first, trivial⟩) ⟨_, second, trivial⟩

end HistorySystem

theorem response_history_kept_reloaded :
    HistorySystem.reloaded.store.order.Nodup ∧
      (∀ key, key ∈ HistorySystem.reloaded.store.order ↔
        key ∈ HistorySystem.reloaded.store.entries) ∧
      HistorySystem.reloaded.store.entries.entries.length ≤ responseHistoryMaxEntries ∧
      ∀ downstreamKeyId responseId,
        (∀ answer,
          (HistorySystem.reloaded.store.get downstreamKeyId responseId 43200).1 = some answer →
          (HistorySystem.lastInserted HistorySystem.reloaded.insertions
            (downstreamKeyId, responseId)).map StoredResponseHistory.toEntry = some answer) ∧
        (∀ stored,
          HistorySystem.lastInserted HistorySystem.reloaded.insertions
            (downstreamKeyId, responseId) = some stored →
          43200 - stored.createdAt ≤ responseHistoryTtlSeconds →
          (downstreamKeyId, responseId) ∈ Recency.latest responseHistoryMaxEntries
            (HistorySystem.uses HistorySystem.reloaded.insertions) →
          (HistorySystem.reloaded.store.get downstreamKeyId responseId 43200).1 =
            some stored.toEntry) ∧
        ((∀ answer,
            (HistorySystem.reloaded.store.get downstreamKeyId responseId 43200).1 = some answer →
            43200 - answer.createdAt ≤ responseHistoryTtlSeconds) ↔
          (HistorySystem.Stale HistorySystem.reloaded.insertions 43200
              (downstreamKeyId, responseId) →
            ¬ HistorySystem.Shielded HistorySystem.reloaded.insertions 43200
              (downstreamKeyId, responseId))) :=
  response_history_kept HistorySystem.reloaded HistorySystem.reloaded_reachable 43200
    (Nat.le_refl _)

/-- A second later the reloaded response is past its time, and still answered. -/
theorem stale_response_answered :
    HistorySystem.reloaded.Reachable ∧ HistorySystem.reloaded.now ≤ 43201 ∧
      ∃ answer, (HistorySystem.reloaded.store.get "downstream" "old" 43201).1 = some answer ∧
        responseHistoryTtlSeconds < 43201 - answer.createdAt := by
  refine ⟨HistorySystem.reloaded_reachable, by decide, ⟨[], [], 0⟩, ?_, by decide⟩
  rfl

end ChatGateway
