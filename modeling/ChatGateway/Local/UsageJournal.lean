import ChatGateway.Local.LedgerReplay

set_option autoImplicit false

/-!
# The journal of usage logs

A log is pending until a flush has stored and archived the batch it is in. A flag lets one flush run
at a time; callers that find it set rely on the running flush to see their log. A snapshot reads the
logs under three locks, one after the other, while flushes go on.
-/

namespace ChatGateway

/-- Where a run of `flush_pending_usage_logs` stands. -/
inductive FlushPhase where
  | idle
  | reading
  | holding (batch : List UsageLog)
  | stored (batch : List UsageLog)
  | archived (batch : List UsageLog)
  | draining (batch : List UsageLog)
  | checking
  | clearing
  | rechecking
  | restarting

def FlushPhase.batch : FlushPhase → List UsageLog
  | .holding batch | .stored batch | .archived batch | .draining batch => batch
  | _ => []

def FlushPhase.ownsFlag : FlushPhase → Bool
  | .idle | .rechecking | .restarting => false
  | _ => true

def FlushPhase.wakes : FlushPhase → Bool
  | .rechecking | .restarting => true
  | _ => false

/-- `due` are the logs that had been appended when the pending ones were read. -/
inductive SnapshotPhase where
  | idle
  | haveState (usageLogs : List UsageLog)
  | havePending (usageLogs pending due : List UsageLog)
  | taken (logs due : List UsageLog)

structure UsageJournal where
  usageLogs : List UsageLog
  archivedUsageLogs : List UsageLog
  pendingUsageLogs : List UsageLog := []
  usageLogFlushRunning : Bool := false
  flushers : Nat → FlushPhase := fun _ => .idle
  appending : Nat → Bool := fun _ => false
  snapshots : Nat → SnapshotPhase := fun _ => .idle
  -- What has happened, which no step reads.
  appended : List UsageLog := []
  stored : List UsageLog := []
  removed : List String := []

inductive JournalEvent where
  | append (caller : Nat) (log : UsageLog)
  | schedule (caller flusher : Nat)
  | flush (flusher : Nat) (succeeds : Bool) (removedIds : List String)
  | pruneArchived (cutoff : Nat)
  | pruneState (cutoff : Nat)
  | snapshot (reader : Nat)

def snapshotLogs (usageLogs pending archived : List UsageLog) : List UsageLog :=
  if archived.isEmpty && pending.isEmpty then usageLogs
  else normalizedUsageLogs (pending ++ archived ++ usageLogs)

namespace UsageJournal

def setFlusher (journal : UsageJournal) (flusher : Nat) (phase : FlushPhase) : UsageJournal :=
  { journal with flushers := Function.update journal.flushers flusher phase }

theorem setFlusher_flushers (journal : UsageJournal) (flusher : Nat) (phase : FlushPhase) :
    (journal.setFlusher flusher phase).flushers =
      Function.update journal.flushers flusher phase := rfl

def setSnapshot (journal : UsageJournal) (reader : Nat) (phase : SnapshotPhase) : UsageJournal :=
  { journal with snapshots := Function.update journal.snapshots reader phase }

def flushStep (journal : UsageJournal) (flusher : Nat) (succeeds : Bool)
    (removedIds : List String) : Option UsageJournal :=
  match journal.flushers flusher with
  | .idle => none
  | .reading =>
    if journal.pendingUsageLogs.isEmpty then journal.setFlusher flusher .checking
    else journal.setFlusher flusher (.holding journal.pendingUsageLogs)
  | .holding batch =>
    if succeeds then
      { journal with stored := journal.stored ++ batch }.setFlusher flusher (.stored batch)
    else journal.setFlusher flusher .reading
  | .stored batch =>
    { journal with archivedUsageLogs := journal.archivedUsageLogs ++ batch }.setFlusher flusher
      (.archived batch)
  | .archived batch =>
    if succeeds then
      { journal with
        archivedUsageLogs := journal.archivedUsageLogs.filter fun log => !removedIds.contains log.id
        removed := journal.removed ++ removedIds }.setFlusher flusher (.draining batch)
    -- The batch stays pending and will be stored and archived once more.
    else journal.setFlusher flusher .reading
  | .draining batch =>
    { journal with
      pendingUsageLogs := journal.pendingUsageLogs.drop
        (min batch.length journal.pendingUsageLogs.length) }.setFlusher flusher .reading
  | .checking =>
    journal.setFlusher flusher (if journal.pendingUsageLogs.isEmpty then .clearing else .reading)
  | .clearing => { journal with usageLogFlushRunning := false }.setFlusher flusher .rechecking
  | .rechecking =>
    journal.setFlusher flusher (if journal.pendingUsageLogs.isEmpty then .idle else .restarting)
  | .restarting =>
    if journal.usageLogFlushRunning then journal.setFlusher flusher .idle
    else { journal with usageLogFlushRunning := true }.setFlusher flusher .reading

def scheduleStep (journal : UsageJournal) (caller flusher : Nat) : Option UsageJournal :=
  if !journal.appending caller then none
  else
    let journal := { journal with appending := Function.update journal.appending caller false }
    if journal.usageLogFlushRunning then some journal
    else
      match journal.flushers flusher with
      | .idle => { journal with usageLogFlushRunning := true }.setFlusher flusher .reading
      | _ => none

def snapshotStep (journal : UsageJournal) (reader : Nat) : Option UsageJournal :=
  match journal.snapshots reader with
  | .idle => journal.setSnapshot reader (.haveState journal.usageLogs)
  | .haveState usageLogs =>
    journal.setSnapshot reader (.havePending usageLogs journal.pendingUsageLogs journal.appended)
  | .havePending usageLogs pending due =>
    journal.setSnapshot reader
      (.taken (snapshotLogs usageLogs pending journal.archivedUsageLogs) due)
  | .taken _ _ => none

def step (journal : UsageJournal) : JournalEvent → Option UsageJournal
  | .append caller log =>
    if journal.appending caller then none
    else
      some { journal with
        pendingUsageLogs := journal.pendingUsageLogs ++ [log]
        appended := journal.appended ++ [log]
        appending := Function.update journal.appending caller true }
  | .schedule caller flusher => journal.scheduleStep caller flusher
  | .flush flusher succeeds removedIds => journal.flushStep flusher succeeds removedIds
  | .pruneArchived cutoff =>
    some { journal with
      archivedUsageLogs := journal.archivedUsageLogs.filter fun log => cutoff ≤ log.createdAt
      removed := journal.removed ++
        (journal.archivedUsageLogs.filter fun log => log.createdAt < cutoff).map (·.id) }
  | .pruneState cutoff =>
    some { journal with usageLogs := journal.usageLogs.filter fun log => cutoff ≤ log.createdAt }
  | .snapshot reader => journal.snapshotStep reader

def run (journal : UsageJournal) (events : List JournalEvent) : Option UsageJournal :=
  events.foldlM step journal

def Quiet (journal : UsageJournal) : Prop :=
  (∀ flusher, journal.flushers flusher = .idle) ∧ ∀ caller, journal.appending caller = false

structure FlagHeld (journal : UsageJournal) : Prop where
  alone : ∀ first second, (journal.flushers first).ownsFlag → (journal.flushers second).ownsFlag →
    first = second
  running : journal.usageLogFlushRunning ↔ ∃ flusher, (journal.flushers flusher).ownsFlag
  awake : journal.pendingUsageLogs ≠ [] → journal.usageLogFlushRunning ∨
    -- Some flush has yet to look at the pending logs again, or some caller has yet to schedule one.
    (∃ flusher, (journal.flushers flusher).wakes) ∨ ∃ caller, journal.appending caller

variable {journal later : UsageJournal} {flusher : Nat} {phase : FlushPhase}

theorem FlagHeld.keep (held : journal.FlagHeld) (owner : (journal.flushers flusher).ownsFlag)
    (moved : later.flushers = Function.update journal.flushers flusher phase)
    (owns : phase.ownsFlag) (same : later.usageLogFlushRunning = journal.usageLogFlushRunning) :
    later.FlagHeld := by
  have owners (other : Nat) :
      (later.flushers other).ownsFlag = (journal.flushers other).ownsFlag := by
    rw [moved, Function.update_apply]
    split
    · next here => rw [here, owner, owns]
    · rfl
  have on : later.usageLogFlushRunning = true := same.trans (held.running.2 ⟨flusher, owner⟩)
  refine ⟨fun first second => ?_, ?_, fun _ => .inl on⟩
  · rw [owners, owners]
    exact held.alone first second
  · exact ⟨fun _ => ⟨flusher, (owners flusher).trans owner⟩, fun _ => on⟩

theorem FlagHeld.take (held : journal.FlagHeld) (free : journal.usageLogFlushRunning = false)
    (moved : later.flushers = Function.update journal.flushers flusher phase)
    (owns : phase.ownsFlag) (on : later.usageLogFlushRunning = true) : later.FlagHeld := by
  have owners (other : Nat) (owner : (later.flushers other).ownsFlag) : other = flusher := by
    by_contra apart
    rw [moved, Function.update_of_ne apart] at owner
    exact absurd (held.running.2 ⟨other, owner⟩) (by simp [free])
  refine ⟨fun first second one two => (owners first one).trans (owners second two).symm, ?_,
    fun _ => .inl on⟩
  exact ⟨fun _ => ⟨flusher, by rw [moved, Function.update_self, owns]⟩, fun _ => on⟩

theorem FlagHeld.wait (held : journal.FlagHeld)
    (without : (journal.flushers flusher).ownsFlag = false) (lacks : phase.ownsFlag = false)
    (awake : journal.pendingUsageLogs ≠ [] → journal.usageLogFlushRunning ∨ phase.wakes) :
    (journal.setFlusher flusher phase).FlagHeld := by
  have owners (other : Nat) : ((journal.setFlusher flusher phase).flushers other).ownsFlag =
      (journal.flushers other).ownsFlag := by
    rw [setFlusher_flushers, Function.update_apply]
    split
    · next here => rw [here, without, lacks]
    · rfl
  refine ⟨fun first second => ?_, ?_, fun filled => ?_⟩
  · rw [owners, owners]
    exact held.alone first second
  · simp only [owners]
    exact held.running
  · rcases awake filled with on | wakes
    · exact .inl on
    · exact .inr (.inl ⟨flusher, by rw [setFlusher_flushers, Function.update_self, wakes]⟩)

theorem FlagHeld.clear (held : journal.FlagHeld) (clearing : journal.flushers flusher = .clearing) :
    ({ journal with usageLogFlushRunning := false }.setFlusher flusher .rechecking).FlagHeld := by
  have nobody (other : Nat) : ¬((Function.update journal.flushers flusher .rechecking
      other).ownsFlag) := by
    by_cases here : other = flusher
    · rw [here, Function.update_self]
      decide
    · rw [Function.update_of_ne here]
      intro owner
      exact here (held.alone other flusher owner (by rw [clearing]; rfl))
  exact ⟨fun first _ owner => absurd owner (nobody first),
    ⟨fun on => absurd on Bool.false_ne_true, fun ⟨other, owner⟩ => absurd owner (nobody other)⟩,
    fun _ => .inr (.inl ⟨flusher, by rw [setFlusher_flushers, Function.update_self]; rfl⟩)⟩

theorem FlagHeld.same (held : journal.FlagHeld) (flushers : later.flushers = journal.flushers)
    (running : later.usageLogFlushRunning = journal.usageLogFlushRunning)
    (pending : later.pendingUsageLogs = journal.pendingUsageLogs)
    (appending : later.appending = journal.appending) : later.FlagHeld := by
  refine ⟨?_, ?_, ?_⟩
  · rw [flushers]
    exact held.alone
  · rw [running, flushers]
    exact held.running
  · rw [pending, running, flushers, appending]
    exact held.awake

def Shown (journal : UsageJournal) (log : UsageLog) : Prop :=
  log ∈ journal.archivedUsageLogs ∨ log.id ∈ journal.removed

def Kept (journal : UsageJournal) (log : UsageLog) : Prop :=
  log ∈ journal.stored ∧ journal.Shown log

structure Grows (journal later : UsageJournal) : Prop where
  appended : journal.appended ⊆ later.appended
  stored : journal.stored ⊆ later.stored
  removed : journal.removed ⊆ later.removed
  archived : ∀ log ∈ journal.archivedUsageLogs, later.Shown log

theorem Grows.of_eq (appended : later.appended = journal.appended)
    (stored : later.stored = journal.stored) (removed : later.removed = journal.removed)
    (archived : later.archivedUsageLogs = journal.archivedUsageLogs) : journal.Grows later :=
  ⟨appended ▸ List.Subset.refl _, stored ▸ List.Subset.refl _, removed ▸ List.Subset.refl _,
    fun _ inside => .inl (archived ▸ inside)⟩

theorem Grows.shown (grows : journal.Grows later) {log : UsageLog} (shown : journal.Shown log) :
    later.Shown log := by
  rcases shown with archived | removed
  · exact grows.archived log archived
  · exact .inr (grows.removed removed)

theorem Grows.kept (grows : journal.Grows later) {log : UsageLog} (kept : journal.Kept log) :
    later.Kept log :=
  ⟨grows.stored kept.1, grows.shown kept.2⟩

theorem Grows.limit (journal : UsageJournal) (removedIds : List String) :
    journal.Grows { journal with
      archivedUsageLogs := journal.archivedUsageLogs.filter fun log => !removedIds.contains log.id
      removed := journal.removed ++ removedIds } := by
  refine ⟨fun _ h => h, fun _ h => h, List.subset_append_left .., fun log archived => ?_⟩
  by_cases gone : log.id ∈ removedIds
  · exact .inr (List.mem_append_right _ gone)
  · exact .inl (List.mem_filter.2 ⟨archived, by simpa using gone⟩)

theorem Grows.prune (journal : UsageJournal) (cutoff : Nat) :
    journal.Grows { journal with
      archivedUsageLogs := journal.archivedUsageLogs.filter fun log => cutoff ≤ log.createdAt
      removed := journal.removed ++
        (journal.archivedUsageLogs.filter fun log => log.createdAt < cutoff).map (·.id) } := by
  refine ⟨fun _ h => h, fun _ h => h, List.subset_append_left .., fun log archived => ?_⟩
  by_cases young : cutoff ≤ log.createdAt
  · exact .inl (List.mem_filter.2 ⟨archived, decide_eq_true young⟩)
  · exact .inr (List.mem_append_right _ (List.mem_map.2
      ⟨log, List.mem_filter.2 ⟨archived, decide_eq_true (Nat.lt_of_not_le young)⟩, rfl⟩))

def Done (journal : UsageJournal) : FlushPhase → Prop
  | .stored batch => ∀ log ∈ batch, log ∈ journal.stored
  | .archived batch | .draining batch => ∀ log ∈ batch, journal.Kept log
  | _ => True

theorem Grows.done (grows : journal.Grows later) (done : journal.Done phase) :
    later.Done phase := by
  cases phase with
  | stored batch => exact fun log inside => grows.stored (done log inside)
  | archived batch => exact fun log inside => grows.kept (done log inside)
  | draining batch => exact fun log inside => grows.kept (done log inside)
  | _ => trivial

structure LogsKept (journal : UsageJournal) : Prop where
  batched : ∀ flusher, (journal.flushers flusher).batch <+: journal.pendingUsageLogs
  done : ∀ flusher, journal.Done (journal.flushers flusher)
  drained : ∃ drained, journal.appended = drained ++ journal.pendingUsageLogs ∧
    ∀ log ∈ drained, journal.Kept log

theorem LogsKept.grow (kept : journal.LogsKept) (grows : journal.Grows later)
    {fresh : List UsageLog}
    (pending : later.pendingUsageLogs = journal.pendingUsageLogs ++ fresh)
    (appended : later.appended = journal.appended ++ fresh)
    (flushes : ∀ flusher, later.flushers flusher = journal.flushers flusher ∨
      (later.flushers flusher).batch <+: journal.pendingUsageLogs ∧
        later.Done (later.flushers flusher)) : later.LogsKept := by
  have room : journal.pendingUsageLogs <+: later.pendingUsageLogs :=
    pending ▸ List.prefix_append ..
  refine ⟨fun flusher => ?_, fun flusher => ?_, ?_⟩
  · rcases flushes flusher with same | ⟨batched, -⟩
    · rw [same]
      exact (kept.batched flusher).trans room
    · exact batched.trans room
  · rcases flushes flusher with same | ⟨-, done⟩
    · rw [same]
      exact grows.done (kept.done flusher)
    · exact done
  · obtain ⟨drained, split, safe⟩ := kept.drained
    exact ⟨drained, by rw [appended, pending, split, List.append_assoc],
      fun log inside => grows.kept (safe log inside)⟩

theorem LogsKept.advance (kept : journal.LogsKept) (grows : journal.Grows later)
    (moved : later.flushers = Function.update journal.flushers flusher phase)
    (pending : later.pendingUsageLogs = journal.pendingUsageLogs)
    (appended : later.appended = journal.appended)
    (batched : phase.batch <+: journal.pendingUsageLogs) (done : later.Done phase) :
    later.LogsKept := by
  refine kept.grow grows (pending.trans (List.append_nil _).symm)
    (appended.trans (List.append_nil _).symm) fun other => ?_
  rw [moved, Function.update_apply]
  split
  · exact .inr ⟨batched, done⟩
  · exact .inl rfl

theorem LogsKept.still (kept : journal.LogsKept) (grows : journal.Grows later)
    (flushers : later.flushers = journal.flushers)
    (pending : later.pendingUsageLogs = journal.pendingUsageLogs)
    (appended : later.appended = journal.appended) : later.LogsKept :=
  kept.grow grows (pending.trans (List.append_nil _).symm)
    (appended.trans (List.append_nil _).symm) fun _ => .inl (congrFun flushers _)

theorem LogsKept.drain (kept : journal.LogsKept) (held : journal.FlagHeld) {batch : List UsageLog}
    (draining : journal.flushers flusher = .draining batch) :
    ({ journal with
      pendingUsageLogs := journal.pendingUsageLogs.drop
        (min batch.length journal.pendingUsageLogs.length) }.setFlusher flusher
          .reading).LogsKept := by
  have done := kept.done flusher
  rw [draining] at done
  obtain ⟨rest, split : batch ++ rest = journal.pendingUsageLogs⟩ := by
    have batched := kept.batched flusher
    rwa [draining] at batched
  have behind : journal.pendingUsageLogs.drop
      (min batch.length journal.pendingUsageLogs.length) = rest := by
    rw [← split, List.length_append, Nat.min_eq_left (Nat.le_add_right ..), List.drop_left]
  obtain ⟨drained, history, safe⟩ := kept.drained
  refine ⟨fun other => ?_, fun other => ?_, drained ++ batch, ?_, fun log inside => ?_⟩
  · rw [setFlusher_flushers, Function.update_apply]
    split
    · exact List.nil_prefix
    · next apart =>
      -- Another flush holds no batch, as it does not own the flag.
      have idle : ¬(journal.flushers other).ownsFlag := fun owner =>
        apart (held.alone other flusher owner (by rw [draining]; rfl))
      have empty : (journal.flushers other).batch = [] := by
        cases phase : journal.flushers other <;> simp_all [FlushPhase.ownsFlag, FlushPhase.batch]
      rw [empty]
      exact List.nil_prefix
  · rw [setFlusher_flushers, Function.update_apply]
    split
    · trivial
    · exact kept.done other
  · show journal.appended = _ ++ journal.pendingUsageLogs.drop _
    rw [behind, history, ← split, List.append_assoc]
  · rcases List.mem_append.1 inside with before | now
    · exact safe log before
    · exact done log now

def Known (start journal : UsageJournal) (log : UsageLog) : Prop :=
  log ∈ start.usageLogs ∨ log ∈ start.archivedUsageLogs ∨ log ∈ journal.appended

def Honest (start journal : UsageJournal) : SnapshotPhase → Prop
  | .idle => True
  | .haveState usageLogs => usageLogs.Sublist start.usageLogs
  | .havePending usageLogs pending due => usageLogs.Sublist start.usageLogs ∧
      (∀ log ∈ pending, log ∈ journal.appended) ∧ ∀ log ∈ due, log ∈ pending ∨ journal.Shown log
  | .taken logs due =>
    ((start.usageLogs.map (·.id)).Nodup → (logs.map (·.id)).Nodup) ∧
      (∀ log ∈ due, log.id ∈ logs.map (·.id) ∨ log.id ∈ journal.removed) ∧
      ∀ log ∈ logs, start.Known journal log

structure SnapshotsTrue (start journal : UsageJournal) : Prop where
  state : journal.usageLogs.Sublist start.usageLogs
  archive : ∀ log ∈ journal.archivedUsageLogs, start.Known journal log
  honest : ∀ reader, start.Honest journal (journal.snapshots reader)

theorem id_mem_dedupLogs {logs : List UsageLog} {log : UsageLog} (inside : log ∈ logs) :
    log.id ∈ (dedupLogs logs).map (·.id) := by
  induction logs with
  | nil => cases inside
  | cons first rest ih =>
    rw [dedupLogs, List.map_cons, List.mem_cons]
    by_cases same : log.id = first.id
    · exact .inl same
    · rcases List.mem_cons.1 inside with rfl | later
      · exact absurd rfl same
      · obtain ⟨kept, member, named⟩ := List.mem_map.1 (ih later)
        refine .inr (List.mem_map.2 ⟨kept, List.mem_filter.2 ⟨member, ?_⟩, named⟩)
        simpa [named] using same

theorem snapshotLogs_nodup {usageLogs pending archived : List UsageLog}
    (once : (usageLogs.map (·.id)).Nodup) :
    ((snapshotLogs usageLogs pending archived).map (·.id)).Nodup := by
  rw [snapshotLogs]
  split
  · exact once
  · exact dedupLogs_nodup _

theorem mem_of_mem_snapshotLogs {usageLogs pending archived : List UsageLog} {log : UsageLog}
    (shown : log ∈ snapshotLogs usageLogs pending archived) :
    log ∈ usageLogs ∨ log ∈ pending ∨ log ∈ archived := by
  rw [snapshotLogs] at shown
  split at shown
  · exact .inl shown
  · have inside := List.mem_mergeSort.1 ((dedupLogs_sublist _).mem shown)
    simpa [or_comm, or_left_comm] using inside

theorem id_mem_snapshotLogs {usageLogs pending archived : List UsageLog} {log : UsageLog}
    (inside : log ∈ pending ∨ log ∈ archived) :
    log.id ∈ (snapshotLogs usageLogs pending archived).map (·.id) := by
  rw [snapshotLogs]
  split
  · next empty =>
    rw [Bool.and_eq_true, List.isEmpty_iff, List.isEmpty_iff] at empty
    simp [empty.1, empty.2] at inside
  · exact id_mem_dedupLogs (List.mem_mergeSort.2 (List.mem_append_left _
      (List.mem_append.2 inside)))

variable {start : UsageJournal}

theorem Grows.known (grows : journal.Grows later) {log : UsageLog}
    (known : start.Known journal log) : start.Known later log :=
  known.imp_right (Or.imp_right (grows.appended ·))

theorem Grows.honest (grows : journal.Grows later) {phase : SnapshotPhase}
    (honest : start.Honest journal phase) : start.Honest later phase := by
  cases phase with
  | idle => trivial
  | haveState usageLogs => exact honest
  | havePending usageLogs pending due =>
    exact ⟨honest.1, fun log inside => grows.appended (honest.2.1 log inside),
      fun log inside => (honest.2.2 log inside).imp_right grows.shown⟩
  | taken logs due =>
    exact ⟨honest.1, fun log inside => (honest.2.1 log inside).imp_right (grows.removed ·),
      fun log inside => grows.known (honest.2.2 log inside)⟩

theorem SnapshotsTrue.grow (honest : start.SnapshotsTrue journal) (grows : journal.Grows later)
    (state : later.usageLogs.Sublist journal.usageLogs)
    (archive : ∀ log ∈ later.archivedUsageLogs, start.Known journal log)
    (snapshots : later.snapshots = journal.snapshots) : start.SnapshotsTrue later where
  state := state.trans honest.state
  archive log inside := grows.known (archive log inside)
  honest reader := by
    rw [snapshots]
    exact grows.honest (honest.honest reader)

theorem LogsKept.pending_appended (kept : journal.LogsKept) {log : UsageLog}
    (pending : log ∈ journal.pendingUsageLogs) : log ∈ journal.appended := by
  obtain ⟨drained, split, -⟩ := kept.drained
  rw [split]
  exact List.mem_append_right _ pending

theorem SnapshotsTrue.read (honest : start.SnapshotsTrue journal) {reader : Nat}
    {phase : SnapshotPhase} (fresh : start.Honest journal phase) :
    start.SnapshotsTrue (journal.setSnapshot reader phase) where
  state := honest.state
  archive := honest.archive
  honest other := by
    show start.Honest journal (Function.update journal.snapshots reader phase other)
    by_cases here : other = reader
    · rw [here, Function.update_self]
      exact fresh
    · rw [Function.update_of_ne here]
      exact honest.honest other

structure Sound (start journal : UsageJournal) : Prop where
  held : journal.FlagHeld
  kept : journal.LogsKept
  honest : start.SnapshotsTrue journal

theorem Sound.flush (sound : start.Sound journal) {succeeds : Bool} {removedIds : List String}
    (taken : journal.flushStep flusher succeeds removedIds = some later) : start.Sound later := by
  obtain ⟨held, kept, honest⟩ := sound
  have batched := kept.batched flusher
  have done := kept.done flusher
  have owns {phase : FlushPhase} {flag : Bool} (here : journal.flushers flusher = phase)
      (owned : phase.ownsFlag = flag) : (journal.flushers flusher).ownsFlag = flag := by
    rw [here, owned]
  -- A step that leaves all logs where they are, unless it stores some.
  have still {later : UsageJournal} (grows : journal.Grows later)
      (state : later.usageLogs = journal.usageLogs)
      (archived : later.archivedUsageLogs = journal.archivedUsageLogs)
      (snapshots : later.snapshots = journal.snapshots) : start.SnapshotsTrue later :=
    honest.grow grows (state ▸ List.Sublist.refl _) (archived ▸ honest.archive) snapshots
  have same {later : UsageJournal} (held : later.FlagHeld) {phase : FlushPhase}
      (moved : later =
        { journal with usageLogFlushRunning := later.usageLogFlushRunning }.setFlusher flusher phase)
      (batched : phase.batch <+: journal.pendingUsageLogs) (done : journal.Done phase) :
      start.Sound later := by
    have grows : journal.Grows later := by
      rw [moved]
      exact .of_eq rfl rfl rfl rfl
    refine ⟨held, ?_, ?_⟩
    · rw [moved] at grows ⊢
      exact kept.advance grows rfl rfl rfl batched (grows.done done)
    · rw [moved] at grows ⊢
      exact still grows rfl rfl rfl
  rw [flushStep] at taken
  split at taken
  case h_1 => cases taken
  case h_2 reading =>
    have owner := owns reading rfl
    split at taken <;> cases taken
    · exact same (held.keep owner rfl rfl rfl) rfl List.nil_prefix trivial
    · exact same (held.keep owner rfl rfl rfl) rfl (List.prefix_refl _) trivial
  case h_3 batch holding =>
    have owner := owns holding rfl
    rw [holding] at batched
    split at taken <;> cases taken
    · have grows : journal.Grows ({ journal with stored := journal.stored ++ batch }.setFlusher
          flusher (.stored batch)) :=
        ⟨fun _ h => h, List.subset_append_left .., fun _ h => h, fun _ => .inl⟩
      exact ⟨held.keep owner rfl rfl rfl,
        kept.advance grows rfl rfl rfl batched fun _ => List.mem_append_right _,
        still grows rfl rfl rfl⟩
    · exact same (held.keep owner rfl rfl rfl) rfl List.nil_prefix trivial
  case h_4 batch stored =>
    have owner := owns stored rfl
    rw [stored] at batched done
    have grows : journal.Grows ({ journal with
        archivedUsageLogs := journal.archivedUsageLogs ++ batch }.setFlusher flusher
          (.archived batch)) :=
      ⟨fun _ h => h, fun _ h => h, fun _ h => h, fun _ h => .inl (List.mem_append_left _ h)⟩
    cases taken
    refine ⟨held.keep owner rfl rfl rfl, kept.advance grows rfl rfl rfl batched fun log inside =>
      ⟨done log inside, .inl (List.mem_append_right _ inside)⟩,
      honest.grow grows (List.Sublist.refl _) (fun log inside => ?_) rfl⟩
    rcases List.mem_append.1 inside with before | now
    · exact honest.archive log before
    · exact .inr (.inr (kept.pending_appended (batched.mem now)))
  case h_5 batch archived =>
    have owner := owns archived rfl
    rw [archived] at batched done
    split at taken <;> cases taken
    · have grows := Grows.limit journal removedIds
      exact ⟨held.keep owner rfl rfl rfl, kept.advance ⟨grows.1, grows.2, grows.3, grows.4⟩ rfl rfl
        rfl batched fun log inside => grows.kept (done log inside),
        honest.grow ⟨grows.1, grows.2, grows.3, grows.4⟩ (List.Sublist.refl _)
          (fun log inside => honest.archive log (List.mem_filter.1 inside).1) rfl⟩
    · exact same (held.keep owner rfl rfl rfl) rfl List.nil_prefix trivial
  case h_6 batch draining =>
    have owner := owns draining rfl
    cases taken
    exact ⟨held.keep owner rfl rfl rfl, kept.drain held draining,
      still (.of_eq rfl rfl rfl rfl) rfl rfl rfl⟩
  case h_7 checking =>
    have owner := owns checking rfl
    cases taken
    split <;> exact same (held.keep owner rfl rfl rfl) rfl List.nil_prefix trivial
  case h_8 clearing =>
    cases taken
    exact same (held.clear clearing) rfl List.nil_prefix trivial
  case h_9 rechecking =>
    have without := owns rechecking rfl
    cases taken
    split
    · next none =>
      exact same (held.wait without rfl fun some => absurd (List.isEmpty_iff.1 none) some) rfl
        List.nil_prefix trivial
    · exact same (held.wait without rfl fun _ => .inr rfl) rfl List.nil_prefix trivial
  case h_10 restarting =>
    have without := owns restarting rfl
    split at taken <;> cases taken
    · next on =>
      exact same (held.wait without rfl fun _ => .inl on) rfl List.nil_prefix trivial
    · next off =>
      exact same (held.take (by simpa using off) rfl rfl rfl) rfl List.nil_prefix trivial

theorem Sound.read (sound : start.Sound journal) {reader : Nat}
    (taken : journal.snapshotStep reader = some later) : start.Sound later := by
  obtain ⟨held, kept, honest⟩ := sound
  have phaseHonest := honest.honest reader
  have advance {phase : SnapshotPhase} (fresh : start.Honest journal phase) :
      start.Sound (journal.setSnapshot reader phase) :=
    ⟨held.same rfl rfl rfl rfl, kept.still (.of_eq rfl rfl rfl rfl) rfl rfl rfl, honest.read fresh⟩
  rw [snapshotStep] at taken
  split at taken
  case h_1 =>
    cases taken
    exact advance honest.state
  case h_2 usageLogs haveState =>
    rw [haveState] at phaseHonest
    cases taken
    refine advance ⟨phaseHonest, fun log inside => kept.pending_appended inside,
      fun log inside => ?_⟩
    -- What is not pending any more has been drained, and only after it was archived.
    obtain ⟨drained, split, safe⟩ := kept.drained
    rw [split] at inside
    rcases List.mem_append.1 inside with before | pending
    · exact .inr (safe log before).2
    · exact .inl pending
  case h_3 usageLogs pending due havePending =>
    rw [havePending] at phaseHonest
    obtain ⟨state, known, due⟩ := phaseHonest
    cases taken
    refine advance ⟨fun once => snapshotLogs_nodup (once.sublist (state.map _)),
      fun log inside => ?_, fun log inside => ?_⟩
    · rcases due log inside with here | here | gone
      · exact .inl (id_mem_snapshotLogs (.inl here))
      · exact .inl (id_mem_snapshotLogs (.inr here))
      · exact .inr gone
    · rcases mem_of_mem_snapshotLogs inside with here | here | here
      · exact .inl (state.mem here)
      · exact .inr (.inr (known log here))
      · exact honest.archive log here
  case h_4 => cases taken

theorem Sound.moves {event : JournalEvent} (sound : start.Sound journal)
    (taken : journal.step event = some later) : start.Sound later := by
  obtain ⟨held, kept, honest⟩ := sound
  cases event with
  | append caller log =>
    simp only [step] at taken
    split at taken <;> cases taken
    have grows : journal.Grows { journal with
        pendingUsageLogs := journal.pendingUsageLogs ++ [log]
        appended := journal.appended ++ [log]
        appending := Function.update journal.appending caller true } :=
      ⟨List.subset_append_left .., fun _ h => h, fun _ h => h, fun _ => .inl⟩
    exact ⟨⟨held.alone, held.running, fun _ => .inr (.inr ⟨caller, Function.update_self ..⟩)⟩,
      kept.grow grows rfl rfl fun _ => .inl rfl,
      honest.grow grows (List.Sublist.refl _) honest.archive rfl⟩
  | schedule caller flusher =>
    simp only [step, scheduleStep] at taken
    split at taken
    · cases taken
    · split at taken
      · next on =>
        cases taken
        exact ⟨⟨held.alone, held.running, fun _ => .inl on⟩,
          kept.still (.of_eq rfl rfl rfl rfl) rfl rfl rfl,
          honest.grow (.of_eq rfl rfl rfl rfl) (List.Sublist.refl _) honest.archive rfl⟩
      · next off =>
        split at taken <;> cases taken
        exact ⟨held.take (by simpa using off) rfl rfl rfl,
          kept.advance (.of_eq rfl rfl rfl rfl) rfl rfl rfl List.nil_prefix trivial,
          honest.grow (.of_eq rfl rfl rfl rfl) (List.Sublist.refl _) honest.archive rfl⟩
  | flush flusher succeeds removedIds => exact Sound.flush ⟨held, kept, honest⟩ taken
  | pruneArchived cutoff =>
    cases taken
    exact ⟨held.same rfl rfl rfl rfl, kept.still (.prune journal cutoff) rfl rfl rfl,
      honest.grow (.prune journal cutoff) (List.Sublist.refl _)
        (fun log inside => honest.archive log (List.mem_filter.1 inside).1) rfl⟩
  | pruneState cutoff =>
    cases taken
    exact ⟨held.same rfl rfl rfl rfl, kept.still (.of_eq rfl rfl rfl rfl) rfl rfl rfl,
      honest.grow (.of_eq rfl rfl rfl rfl) List.filter_sublist honest.archive rfl⟩
  | snapshot reader => exact Sound.read ⟨held, kept, honest⟩ taken

theorem Sound.run (sound : start.Sound journal) {events : List JournalEvent}
    (ran : journal.run events = some later) : start.Sound later := by
  induction events generalizing journal with
  | nil =>
    cases ran
    exact sound
  | cons event rest ih =>
    obtain ⟨middle, taken, ran⟩ := Option.bind_eq_some_iff.1 ran
    exact ih (sound.moves taken) ran

def booted (usageLogs archivedUsageLogs : List UsageLog) : UsageJournal where
  usageLogs
  archivedUsageLogs

theorem Sound.booted (usageLogs archivedUsageLogs : List UsageLog) :
    (booted usageLogs archivedUsageLogs).Sound (booted usageLogs archivedUsageLogs) where
  held := ⟨fun _ _ owner => absurd owner Bool.false_ne_true,
    ⟨fun on => absurd on Bool.false_ne_true, fun ⟨_, owner⟩ => owner⟩,
    fun filled => absurd rfl filled⟩
  kept := ⟨fun _ => List.nil_prefix, fun _ => trivial, [], rfl, fun _ inside => by cases inside⟩
  honest := ⟨List.Sublist.refl _, fun _ inside => .inr (.inl inside), fun _ => trivial⟩

end UsageJournal

def loggedRequest : UsageLog := ⟨"log-1", "key-1", "request-1", 200, 3, 5, none, 10⟩

-- The log is appended after the snapshot began, and drained before it reads the archive.
def flushedMeanwhile : List JournalEvent :=
  [.snapshot 0, .append 0 loggedRequest, .schedule 0 0, .snapshot 0] ++
    List.replicate 9 (.flush 0 true []) ++ [.snapshot 0]

theorem flushedMeanwhile_runs :
    ((UsageJournal.booted [] []).run flushedMeanwhile).isSome := by
  decide

/-- A snapshot shows every log once that was appended before it read the pending ones and has not
been removed since, also where flushes moved logs between its reads; and it shows no other logs
than those of the start and those appended. -/
theorem snapshot_shows_logs_once {usageLogs archivedUsageLogs : List UsageLog}
    (once : (usageLogs.map (·.id)).Nodup) {events : List JournalEvent} {journal : UsageJournal}
    (ran : (UsageJournal.booted usageLogs archivedUsageLogs).run events = some journal)
    {reader : Nat} {logs due : List UsageLog}
    (taken : journal.snapshots reader = .taken logs due) :
    (logs.map (·.id)).Nodup ∧
    (∀ log ∈ due, log.id ∈ logs.map (·.id) ∨ log.id ∈ journal.removed) ∧
    ∀ log ∈ logs, log ∈ usageLogs ∨ log ∈ archivedUsageLogs ∨ log ∈ journal.appended := by
  have honest := ((UsageJournal.Sound.booted ..).run ran).honest.honest reader
  rw [taken] at honest
  exact ⟨honest.1 once, honest.2.1, honest.2.2⟩

theorem loggedRequest_shown : ∃ journal logs due,
    (UsageJournal.booted [] []).run flushedMeanwhile = some journal ∧
      journal.snapshots 0 = .taken logs due ∧ (logs.map (·.id)).Nodup :=
  ⟨_, _, _, (Option.some_get flushedMeanwhile_runs).symm, rfl,
    (@snapshot_shows_logs_once [] [] List.nodup_nil _ _
      (Option.some_get flushedMeanwhile_runs).symm 0 _ _ rfl).1⟩

end ChatGateway
