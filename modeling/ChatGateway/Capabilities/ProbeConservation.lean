import ChatGateway.Capabilities.ProbeQueue
import Mathlib.Data.Finset.Lattice.Lemmas

set_option autoImplicit false

/-!
# No probe is lost

The collections of the queue agree in every run, and a job that is offered is followed until it
comes back or starts.
-/

namespace ChatGateway

def ProbeMode.covers : ProbeMode → ProbeMode → Bool
  | full, _ => true
  | reasoning, mode => mode = reasoning

def ProbeJob.covers (held job : ProbeJob) : Bool :=
  held.key = job.key && sameJobConfiguration held job && held.mode.covers job.mode &&
    job.exposedModelSlugs ⊆ held.exposedModelSlugs

inductive ProbeOp where
  | enqueue (job : ProbeJob)
  | startNext
  | finish (key : DialectProfileKey)
  | setLimits (maxGlobal maxPerUpstream : Nat)
  | clearPending

def EnqueueOutcome.discarded : EnqueueOutcome → List ProbeJob
  | replaced job => [job]
  | _ => []

namespace ProbeQueueState

def step (state : ProbeQueueState) : ProbeOp → ProbeQueueState × List ProbeJob
  | .enqueue job =>
    ((state.enqueueWithOutcome job).1, (state.enqueueWithOutcome job).2.discarded)
  | .startNext => (state.startNext.1, state.startNext.2.toList)
  | .finish key => (state.finish key, [])
  | .setLimits maxGlobal maxPerUpstream => (state.setLimits maxGlobal maxPerUpstream, [])
  | .clearPending => state.clearPending

def run (state : ProbeQueueState) (ops : List ProbeOp) : ProbeQueueState :=
  ops.foldl (fun state op => (state.step op).1) state

def handedOut (state : ProbeQueueState) : List ProbeOp → List ProbeJob
  | [] => []
  | op :: rest => (state.step op).2 ++ (state.step op).1.handedOut rest

def Waits (job : ProbeJob) : ProbeQueueState → List ProbeOp → Prop
  | state, [] => ∃ held ∈ state.pending, held.covers job = true
  | state, op :: rest => (∃ held ∈ state.pending, held.covers job = true) ∧
      ((∃ handed ∈ (state.step op).2, handed.covers job = true) ∨ Waits job (state.step op).1 rest)

def Accounted (state : ProbeQueueState) (job : ProbeJob) (later : List ProbeOp) : Prop :=
  (state.enqueueWithOutcome job).2 = .rejected job ∨
    ((state.enqueueWithOutcome job).1.activeJobs.lookup job.key).any (·.covers job) = true ∨
    Waits job (state.enqueueWithOutcome job).1 later

def activeCount (state : ProbeQueueState) (upstreamId : String) : Nat :=
  (state.active.filter fun key => key.upstreamId = upstreamId).card

def countEntry (count : Nat) : Option Nat :=
  if count = 0 then none else some count

structure Valid (state : ProbeQueueState) : Prop where
  distinct : (state.pending.map ProbeJob.key).Nodup
  known : ∀ key, key ∈ state.known ↔ key ∈ state.active ∨ key ∈ state.pending.map ProbeJob.key
  jobs : ∀ key, (state.activeJobs.lookup key).isSome = true ↔ key ∈ state.active
  keys : ∀ key job, state.activeJobs.lookup key = some job → job.key = key
  counts : ∀ upstreamId,
    state.activeByUpstream.lookup upstreamId = countEntry (state.activeCount upstreamId)
  bounded : state.active.card + state.pending.length ≤ state.maxJobs

def absorber (state : ProbeQueueState) (job : ProbeJob) : Option ProbeJob :=
  match state.pendingJob job.key with
  | some pending => if sameJobConfiguration pending job then some pending else none
  | none => if state.activeAbsorbs job then state.activeJobs.lookup job.key else none

def modeFits (state : ProbeQueueState) (job : ProbeJob) : Bool :=
  (state.absorber job).all (fun absorber => absorber.mode.covers job.mode) ||
    (state.activeJobs.lookup job.key).any (·.covers job)

end ProbeQueueState

theorem ProbeMode.covers_refl (mode : ProbeMode) : mode.covers mode = true := by
  cases mode <;> rfl

theorem ProbeMode.covers_trans {first second third : ProbeMode} (one : first.covers second = true)
    (two : second.covers third = true) : first.covers third = true := by
  cases first <;> cases second <;> cases third <;> simp_all [ProbeMode.covers]

theorem sameJobConfiguration_iff {left right : ProbeJob} :
    sameJobConfiguration left right = true ↔
      left.configuration = right.configuration ∧ left.planDigest = right.planDigest := by
  simp [sameJobConfiguration]

theorem ProbeJob.covers_iff {held job : ProbeJob} :
    held.covers job = true ↔ held.key = job.key ∧ sameJobConfiguration held job = true ∧
      held.mode.covers job.mode = true ∧ job.exposedModelSlugs ⊆ held.exposedModelSlugs := by
  simp [ProbeJob.covers, and_assoc]

theorem ProbeJob.covers_refl (job : ProbeJob) : job.covers job = true :=
  ProbeJob.covers_iff.2
    ⟨rfl, sameJobConfiguration_iff.2 ⟨rfl, rfl⟩, ProbeMode.covers_refl _, Finset.Subset.refl _⟩

theorem ProbeJob.covers_trans {first second third : ProbeJob} (one : first.covers second = true)
    (two : second.covers third = true) : first.covers third = true := by
  obtain ⟨key, same, mode, models⟩ := ProbeJob.covers_iff.1 one
  obtain ⟨key', same', mode', models'⟩ := ProbeJob.covers_iff.1 two
  rw [sameJobConfiguration_iff] at same same'
  exact ProbeJob.covers_iff.2 ⟨key.trans key',
    sameJobConfiguration_iff.2 ⟨same.1.trans same'.1, same.2.trans same'.2⟩,
    ProbeMode.covers_trans mode mode', models'.trans models⟩

section ChangeFirst

variable {key : DialectProfileKey} {change : ProbeJob → ProbeJob} {pending : List ProbeJob}
  {found : ProbeJob}

theorem changeFirst_keys (keeps : ∀ job, job.key = key → (change job).key = key) :
    (changeFirst key change pending).map ProbeJob.key = pending.map ProbeJob.key := by
  induction pending with
  | nil => rfl
  | cons job rest ih =>
    unfold changeFirst
    split_ifs with same
    · simp [keeps job same, same]
    · simp [ih]

theorem mem_changeFirst (first : pending.find? (fun job => job.key = key) = some found) :
    change found ∈ changeFirst key change pending := by
  induction pending with
  | nil => cases first
  | cons job rest ih =>
    unfold changeFirst
    by_cases same : job.key = key
    · rw [List.find?_cons_of_pos (by simp [same])] at first
      cases first
      simp [same]
    · rw [List.find?_cons_of_neg (by simp [same])] at first
      rw [if_neg same]
      exact List.mem_cons_of_mem _ (ih first)

theorem mem_changeFirst_of_ne {job : ProbeJob} (member : job ∈ pending) (other : job.key ≠ key) :
    job ∈ changeFirst key change pending := by
  induction pending with
  | nil => cases member
  | cons head rest ih =>
    unfold changeFirst
    split_ifs with same
    · rcases List.mem_cons.1 member with rfl | later
      · exact absurd same other
      · exact List.mem_cons_of_mem _ later
    · rcases List.mem_cons.1 member with rfl | later
      · exact List.mem_cons_self ..
      · exact List.mem_cons_of_mem _ (ih later)

end ChangeFirst

theorem eq_of_key {pending : List ProbeJob} (distinct : (pending.map ProbeJob.key).Nodup)
    {first second : ProbeJob} (one : first ∈ pending) (two : second ∈ pending)
    (same : first.key = second.key) : first = second :=
  List.inj_on_of_nodup_map distinct one two same

namespace ProbeQueueState

variable {state : ProbeQueueState} {job : ProbeJob}

def withModels (models : Finset String) (pending : ProbeJob) : ProbeJob :=
  { pending with exposedModelSlugs := pending.exposedModelSlugs ∪ models }

inductive Offered (state : ProbeQueueState) (job : ProbeJob) :
    ProbeQueueState × EnqueueOutcome → Prop where
  | merged (pending : ProbeJob) (found : state.pendingJob job.key = some pending)
      (same : sameJobConfiguration pending job = true) :
      Offered state job ({ state with
        pending := changeFirst job.key (withModels job.exposedModelSlugs) state.pending },
        .unchanged)
  | replaced (pending : ProbeJob) (found : state.pendingJob job.key = some pending)
      (different : sameJobConfiguration pending job = false) :
      Offered state job ({ state with
        pending := changeFirst job.key (fun _ => job) state.pending }, .replaced pending)
  | absorbed (free : state.pendingJob job.key = none) (absorbs : state.activeAbsorbs job = true) :
      Offered state job (state, .unchanged)
  | rejected (free : state.pendingJob job.key = none) (needed : state.activeAbsorbs job = false)
      (full : state.isFull = true) : Offered state job (state, .rejected job)
  | pushed (free : state.pendingJob job.key = none) (needed : state.activeAbsorbs job = false)
      (room : state.isFull = false) :
      Offered state job ({ state with
        known := insert job.key state.known
        pending := state.pending ++ [job] }, .enqueued)

theorem pendingJob_eq_none {key : DialectProfileKey} (free : state.pendingJob key = none) :
    key ∉ state.pending.map ProbeJob.key := by
  intro member
  obtain ⟨job, inside, same⟩ := List.mem_map.1 member
  have other := List.find?_eq_none.1 free job inside
  simp [same] at other

theorem pendingJob_mem {key : DialectProfileKey} {pending : ProbeJob}
    (found : state.pendingJob key = some pending) : pending ∈ state.pending ∧ pending.key = key :=
  ⟨List.mem_of_find?_eq_some found, by simpa using List.find?_some found⟩

theorem enqueue_offered (valid : state.Valid) (job : ProbeJob) :
    Offered state job (state.enqueueWithOutcome job) := by
  unfold enqueueWithOutcome
  by_cases known : job.key ∈ state.known
  · rw [if_pos known]
    cases found : state.pendingJob job.key with
    | some pending =>
      dsimp only
      split_ifs with same
      · exact .merged pending found same
      · exact .replaced pending found (by simpa using same)
    | none =>
      have running : job.key ∈ state.active :=
        ((valid.known job.key).1 known).resolve_right (pendingJob_eq_none found)
      dsimp only
      rw [if_pos running]
      split_ifs with absorbs full
      · exact .absorbed found absorbs
      · exact .rejected found (by simpa using absorbs) full
      · have pushed := Offered.pushed found (by simpa using absorbs) (by simpa using full)
        rw [Finset.insert_eq_of_mem known] at pushed
        exact pushed
  · -- A key that is not known is neither waiting nor running.
    have unknown := (valid.known job.key).not.1 known
    rw [not_or] at unknown
    have free : state.pendingJob job.key = none := by
      refine List.find?_eq_none.2 fun other member same => unknown.2 ?_
      exact List.mem_map.2 ⟨other, member, by simpa using same⟩
    have needed : state.activeAbsorbs job = false := by
      have idle : state.activeJobs.lookup job.key = none := by
        simpa using (valid.jobs job.key).not.2 unknown.1
      simp [activeAbsorbs, idle]
    rw [if_neg known]
    split_ifs with full
    · exact .rejected free needed full
    · exact .pushed free needed (by simpa using full)

theorem valid_new (maxGlobal maxPerUpstream maxJobs : Nat) :
    (new maxGlobal maxPerUpstream maxJobs).Valid where
  distinct := by simp [new]
  known := by simp [new]
  jobs := by simp [new]
  keys := by simp [new]
  counts := by simp [new, activeCount, countEntry]
  bounded := by simp [new]

theorem Valid.change (valid : state.Valid) {pending : List ProbeJob}
    (keys : pending.map ProbeJob.key = state.pending.map ProbeJob.key) :
    Valid { state with pending := pending } where
  distinct := by
    rw [keys]
    exact valid.distinct
  known := by
    rw [keys]
    exact valid.known
  jobs := valid.jobs
  keys := valid.keys
  counts := valid.counts
  bounded := by
    have same : pending.length = state.pending.length := by
      simpa using congrArg List.length keys
    rw [same]
    exact valid.bounded

theorem valid_enqueue (valid : state.Valid) (job : ProbeJob) :
    (state.enqueueWithOutcome job).1.Valid := by
  have offered := enqueue_offered valid job
  generalize state.enqueueWithOutcome job = result at offered
  cases offered with
  | merged pending found same => exact valid.change (changeFirst_keys fun _ here => here)
  | replaced pending found different => exact valid.change (changeFirst_keys fun _ _ => rfl)
  | absorbed free absorbs => exact valid
  | rejected free needed full => exact valid
  | pushed free needed room =>
    have fresh := pendingJob_eq_none free
    refine ⟨?_, ?_, valid.jobs, valid.keys, valid.counts, ?_⟩
    · rw [List.map_append, List.map_singleton]
      exact List.Nodup.append valid.distinct (List.nodup_singleton _) (by simpa using fresh)
    · intro key
      rw [Finset.mem_insert, valid.known key]
      simp only [List.map_append, List.mem_append, List.map_singleton, List.mem_singleton]
      tauto
    · simp only [isFull, decide_eq_false_iff_not] at room
      simp only [List.length_append, List.length_singleton]
      omega

theorem valid_clearPending (valid : state.Valid) : state.clearPending.1.Valid where
  distinct := List.nodup_nil
  known := by simp [clearPending]
  jobs := valid.jobs
  keys := valid.keys
  counts := valid.counts
  bounded := by
    have bounded := valid.bounded
    simp only [clearPending, List.length_nil]
    omega

theorem startNext_eq_some {next : ProbeQueueState} (started : state.startNext = (next, some job)) :
    state.active.card < state.maxGlobal ∧ state.pending.find? state.canStart = some job ∧
      next = { state with
        pending := state.pending.eraseP state.canStart
        active := insert job.key state.active
        activeJobs := state.activeJobs.insert job.key job
        activeByUpstream := state.activeByUpstream.insert job.key.upstreamId
          (state.activeOf job.key.upstreamId + 1) } := by
  unfold startNext at started
  split_ifs at started with full
  · cases started
  · split at started
    · cases started
    · next found =>
      cases started
      exact ⟨by omega, found, rfl⟩

theorem startNext_eq_none {next : ProbeQueueState} (waiting : state.startNext = (next, none)) :
    next = state := by
  unfold startNext at waiting
  split_ifs at waiting with full
  · cases waiting
    rfl
  · split at waiting
    · cases waiting
      rfl
    · cases waiting

theorem activeOf_eq (valid : state.Valid) (upstreamId : String) :
    state.activeOf upstreamId = state.activeCount upstreamId := by
  rw [activeOf, valid.counts, countEntry]
  split_ifs with zero
  · exact zero.symm
  · rfl

theorem split_of_find {jobs : List ProbeJob} {startable : ProbeJob → Bool}
    (found : jobs.find? startable = some job) : ∃ before after,
      jobs = before ++ job :: after ∧ jobs.eraseP startable = before ++ after := by
  obtain ⟨first, before, after, others, here, split, erased⟩ :=
    List.exists_of_eraseP (List.mem_of_find?_eq_some found) (List.find?_some found)
  rw [split, List.find?_append, List.find?_eq_none.2 fun other member => others other member,
    Option.none_or, List.find?_cons_of_pos here, Option.some_inj] at found
  subst found
  exact ⟨before, after, split, erased⟩

theorem startable_iff : state.canStart job = true ↔
    job.key ∉ state.active ∧ state.activeOf job.key.upstreamId < state.maxPerUpstream := by
  simp [canStart]

theorem valid_startNext (valid : state.Valid) : state.startNext.1.Valid := by
  cases started : state.startNext with
  | mk next result =>
    cases result with
    | none =>
      rw [startNext_eq_none started]
      exact valid
    | some job =>
      obtain ⟨-, found, rfl⟩ := startNext_eq_some started
      have fresh : job.key ∉ state.active := (startable_iff.1 (List.find?_some found)).1
      obtain ⟨before, after, split, erased⟩ := split_of_find found
      have perm : state.pending.Perm (job :: state.pending.eraseP state.canStart) := by
        rw [erased, split]
        exact List.perm_middle
      have keys := perm.map ProbeJob.key
      have distinct := keys.nodup_iff.1 valid.distinct
      rw [List.map_cons, List.nodup_cons] at distinct
      refine ⟨distinct.2, ?_, ?_, ?_, ?_, ?_⟩
      · intro key
        rw [valid.known key, keys.mem_iff, List.map_cons, List.mem_cons, Finset.mem_insert]
        tauto
      · intro key
        rw [Table.lookup_insert_eq, Finset.mem_insert, ← valid.jobs key]
        by_cases here : key = job.key <;> simp [here]
      · intro key other looked
        rw [Table.lookup_insert_eq] at looked
        split_ifs at looked with here
        · cases looked
          exact here.symm
        · exact valid.keys key other looked
      · intro upstreamId
        rw [Table.lookup_insert_eq, activeOf_eq valid]
        unfold activeCount
        rw [Finset.filter_insert]
        split_ifs with here there there
        · rw [Finset.card_insert_of_notMem (by simp [fresh]), here, countEntry, if_neg (by omega)]
        · exact absurd here.symm there
        · exact absurd there.symm here
        · exact valid.counts upstreamId
      · have length := perm.length_eq
        rw [List.length_cons] at length
        have bounded := valid.bounded
        simp only [Finset.card_insert_of_notMem fresh]
        omega

theorem lookup_releaseUpstream (valid : state.Valid) {key : DialectProfileKey}
    (running : key ∈ state.active) (upstreamId : String) :
    (releaseUpstream state.activeByUpstream key.upstreamId).lookup upstreamId =
      countEntry ((state.active.erase key).filter fun other =>
        other.upstreamId = upstreamId).card := by
  have counts := valid.counts
  have positive : 0 < state.activeCount key.upstreamId :=
    Finset.card_pos.2 ⟨key, Finset.mem_filter.2 ⟨running, rfl⟩⟩
  have entry : state.activeByUpstream.lookup key.upstreamId =
      some (state.activeCount key.upstreamId) := by
    rw [counts, countEntry, if_neg (by omega)]
  have rest : ((state.active.erase key).filter fun other => other.upstreamId = upstreamId).card =
      if upstreamId = key.upstreamId then state.activeCount upstreamId - 1
      else state.activeCount upstreamId := by
    rw [Finset.filter_erase]
    split_ifs with here
    · rw [Finset.card_erase_of_mem (Finset.mem_filter.2 ⟨running, here.symm⟩)]
      rfl
    · rw [Finset.erase_eq_of_notMem]
      · rfl
      · intro member
        exact here (Finset.mem_filter.1 member).2.symm
  unfold releaseUpstream
  simp only [entry]
  rw [rest]
  split_ifs with last here here
  · rw [Table.lookup_erase_eq, if_pos here, here, last]
    rfl
  · rw [Table.lookup_erase_eq, if_neg here]
    exact counts upstreamId
  · rw [Table.lookup_insert_eq, if_pos here, here, countEntry, if_neg last]
  · rw [Table.lookup_insert_eq, if_neg here]
    exact counts upstreamId

theorem forget_known {known active : Finset DialectProfileKey} {waiting : List DialectProfileKey}
    {key : DialectProfileKey} (agree : ∀ other, other ≠ key →
      (other ∈ known ↔ other ∈ active ∨ other ∈ waiting)) (idle : key ∉ active)
    (free : key ∉ waiting) (other : DialectProfileKey) :
    other ∈ known.erase key ↔ other ∈ active ∨ other ∈ waiting := by
  rw [Finset.mem_erase]
  by_cases same : other = key
  · subst same
    simp [idle, free]
  · simp [same, agree other same]

theorem valid_finish (valid : state.Valid) (key : DialectProfileKey) : (state.finish key).Valid := by
  unfold finish
  by_cases running : key ∈ state.active
  · simp only [if_pos running]
    have jobs (other : DialectProfileKey) :
        ((state.activeJobs.erase key).lookup other).isSome = true ↔
          other ∈ state.active.erase key := by
      rw [Table.lookup_erase_eq, Finset.mem_erase, ← valid.jobs other]
      by_cases same : other = key <;> simp [same]
    have keys (other : DialectProfileKey) (held : ProbeJob)
        (looked : (state.activeJobs.erase key).lookup other = some held) : held.key = other := by
      rw [Table.lookup_erase_eq] at looked
      split_ifs at looked with same
      exact valid.keys other held looked
    have counts := lookup_releaseUpstream valid running
    have bounded : (state.active.erase key).card + state.pending.length ≤ state.maxJobs := by
      have fewer := Finset.card_erase_le (s := state.active) (a := key)
      have bounded := valid.bounded
      omega
    have agree (other : DialectProfileKey) (apart : other ≠ key) :
        other ∈ state.known ↔
          other ∈ state.active.erase key ∨ other ∈ state.pending.map ProbeJob.key := by
      rw [valid.known, Finset.mem_erase]
      simp [apart]
    split_ifs with waiting
    · refine ⟨valid.distinct, fun other => ?_, jobs, keys, counts, bounded⟩
      obtain ⟨pending, found⟩ := Option.isSome_iff_exists.1 waiting
      obtain ⟨member, same⟩ := pendingJob_mem found
      by_cases here : other = key
      · subst here
        have inside : other ∈ state.pending.map ProbeJob.key := List.mem_map.2 ⟨pending, member, same⟩
        simp only [valid.known, inside, or_true]
      · exact agree other here
    · have free := pendingJob_eq_none (Option.not_isSome_iff_eq_none.1 waiting)
      exact ⟨valid.distinct, forget_known agree (Finset.notMem_erase key _) free, jobs, keys, counts,
        bounded⟩
  · simp only [if_neg running]
    split_ifs with waiting
    · exact valid
    · have free := pendingJob_eq_none (Option.not_isSome_iff_eq_none.1 waiting)
      exact ⟨valid.distinct, forget_known (fun other _ => valid.known other) running free, valid.jobs,
        valid.keys, valid.counts, valid.bounded⟩

theorem valid_step (valid : state.Valid) (op : ProbeOp) : (state.step op).1.Valid := by
  cases op with
  | enqueue job => exact valid_enqueue valid job
  | startNext => exact valid_startNext valid
  | finish key => exact valid_finish valid key
  | setLimits maxGlobal maxPerUpstream =>
    exact ⟨valid.distinct, valid.known, valid.jobs, valid.keys, valid.counts, valid.bounded⟩
  | clearPending => exact valid_clearPending valid

theorem valid_run (valid : state.Valid) (ops : List ProbeOp) : (state.run ops).Valid := by
  induction ops generalizing state with
  | nil => exact valid
  | cons op rest ih => exact ih (valid_step valid op)

theorem covers_withModels (models : Finset String) (pending : ProbeJob) :
    (withModels models pending).covers pending = true :=
  ProbeJob.covers_iff.2 ⟨rfl, sameJobConfiguration_iff.2 ⟨rfl, rfl⟩, ProbeMode.covers_refl _,
    Finset.subset_union_left⟩

-- A waiting job still waits after a step, perhaps for more models, or is handed out by it.
theorem step_keeps (valid : state.Valid) (op : ProbeOp) {held : ProbeJob}
    (waiting : held ∈ state.pending) :
    held ∈ (state.step op).2 ∨ ∃ still ∈ (state.step op).1.pending, still.covers held = true := by
  have here (next : List ProbeJob) (member : held ∈ next) :
      ∃ still ∈ next, still.covers held = true := ⟨held, member, ProbeJob.covers_refl held⟩
  cases op with
  | enqueue job =>
    simp only [step]
    have offered := enqueue_offered valid job
    generalize state.enqueueWithOutcome job = result at offered
    cases offered with
    | merged pending found same =>
      right
      obtain ⟨member, key⟩ := pendingJob_mem found
      by_cases own : held.key = job.key
      · have only := eq_of_key valid.distinct waiting member (own.trans key.symm)
        subst only
        exact ⟨_, mem_changeFirst found, covers_withModels _ _⟩
      · exact here _ (mem_changeFirst_of_ne waiting own)
    | replaced pending found different =>
      obtain ⟨member, key⟩ := pendingJob_mem found
      by_cases own : held.key = job.key
      · left
        have only := eq_of_key valid.distinct waiting member (own.trans key.symm)
        exact List.mem_singleton.2 only
      · exact .inr (here _ (mem_changeFirst_of_ne waiting own))
    | absorbed free absorbs => exact .inr (here _ waiting)
    | rejected free needed full => exact .inr (here _ waiting)
    | pushed free needed room => exact .inr (here _ (List.mem_append_left _ waiting))
  | startNext =>
    simp only [step]
    cases started : state.startNext with
    | mk next result =>
      cases result with
      | none =>
        rw [startNext_eq_none started]
        exact .inr (here _ waiting)
      | some job =>
        obtain ⟨-, found, rfl⟩ := startNext_eq_some started
        by_cases own : held = job
        · exact .inl (by simp [own])
        · right
          refine here _ ?_
          obtain ⟨before, after, split, erased⟩ := split_of_find found
          simp only [erased]
          rw [split] at waiting
          simpa [own] using waiting
  | finish key =>
    right
    refine here _ ?_
    simp only [step, finish]
    split_ifs <;> exact waiting
  | setLimits maxGlobal maxPerUpstream => exact .inr (here _ waiting)
  | clearPending => exact .inl waiting

theorem waits_of_held (valid : state.Valid) {held : ProbeJob} (waiting : held ∈ state.pending)
    (covers : held.covers job = true) (later : List ProbeOp) : Waits job state later := by
  induction later generalizing state held with
  | nil => exact ⟨held, waiting, covers⟩
  | cons op rest ih =>
    refine ⟨⟨held, waiting, covers⟩, ?_⟩
    rcases step_keeps valid op waiting with handed | ⟨still, member, more⟩
    · exact .inl ⟨held, handed, covers⟩
    · exact .inr (ih (valid_step valid op) member (ProbeJob.covers_trans more covers))

theorem held_of_waits {later : List ProbeOp} (waits : Waits job state later) :
    ∃ held ∈ state.pending, held.covers job = true := by
  cases later with
  | nil => exact waits
  | cons op rest => exact waits.1

-- An offered job is accounted for exactly when no job of a lesser mode takes it up.
theorem accounted_iff (valid : state.Valid) (job : ProbeJob) (later : List ProbeOp) :
    Accounted state job later ↔ state.modeFits job = true := by
  have next := valid_enqueue valid job
  have offered := enqueue_offered valid job
  unfold Accounted modeFits absorber
  generalize state.enqueueWithOutcome job = result at next offered
  cases offered with
  | merged pending found same =>
    obtain ⟨member, key⟩ := pendingJob_mem found
    have merged := @mem_changeFirst job.key (withModels job.exposedModelSlugs) _ _ found
    have covers_iff : (withModels job.exposedModelSlugs pending).covers job = true ↔
        pending.mode.covers job.mode = true := by
      have same' : sameJobConfiguration (withModels job.exposedModelSlugs pending) job = true := same
      have models : job.exposedModelSlugs ⊆
          (withModels job.exposedModelSlugs pending).exposedModelSlugs := Finset.subset_union_right
      rw [ProbeJob.covers_iff]
      exact ⟨fun covers => covers.2.2.1, fun mode => ⟨key, same', mode, models⟩⟩
    simp only [found, same, if_true, Option.all_some, Bool.or_eq_true, reduceCtorEq, false_or]
    constructor
    · rintro (active | waits)
      · exact .inr active
      · left
        -- The only waiting job of the key is the one with the models of both.
        obtain ⟨held, inside, covers⟩ := held_of_waits waits
        have only := eq_of_key next.distinct inside merged
          ((ProbeJob.covers_iff.1 covers).1.trans key.symm)
        rw [only] at covers
        exact covers_iff.1 covers
    · rintro (mode | active)
      · exact .inr (waits_of_held next merged (covers_iff.2 mode) later)
      · exact .inl active
  | replaced pending found different =>
    simp only [found, different, Bool.false_eq_true, if_false, Option.all_none, Bool.true_or,
      iff_true]
    right; right
    exact waits_of_held next (mem_changeFirst found) (ProbeJob.covers_refl job) later
  | absorbed free absorbs =>
    have known := absorbs
    unfold activeAbsorbs at known
    obtain ⟨active, looked, fits⟩ := (Option.any_eq_true _ _).1 known
    simp only [Bool.and_eq_true, decide_eq_true_eq] at fits
    have key := valid.keys job.key active looked
    have covers_iff : active.covers job = true ↔ active.mode.covers job.mode = true := by
      rw [ProbeJob.covers_iff]
      exact ⟨fun covers => covers.2.2.1, fun mode => ⟨key, fits.1, mode, fits.2⟩⟩
    simp only [free, absorbs, if_true, looked, Option.all_some, Option.any_some, Bool.or_eq_true,
      covers_iff, or_self, reduceCtorEq, false_or]
    constructor
    · rintro (mode | waits)
      · exact mode
      · obtain ⟨held, inside, covers⟩ := held_of_waits waits
        have waiting := List.mem_map.2 ⟨held, inside, (ProbeJob.covers_iff.1 covers).1⟩
        exact absurd waiting (pendingJob_eq_none free)
    · exact .inl
  | rejected free needed full =>
    simp [free, needed]
  | pushed free needed room =>
    simp only [free, needed, Bool.false_eq_true, if_false, Option.all_none, Bool.true_or, iff_true]
    right; right
    exact waits_of_held next (List.mem_append_right _ (List.mem_singleton_self job))
      (ProbeJob.covers_refl job) later

theorem enqueueBatch_cons (job : ProbeJob) (jobs : List ProbeJob) :
    state.enqueueBatchWithOutcome (job :: jobs) =
      match state.enqueueWithOutcome job with
      | (next, .rejected job) => (next, job :: jobs, [])
      | (next, .replaced discarded) =>
        let (final, remaining, replaced) := next.enqueueBatchWithOutcome jobs
        (final, remaining, discarded :: replaced)
      | (next, _) => next.enqueueBatchWithOutcome jobs := rfl

theorem enqueueBatch_eq_run (valid : state.Valid) (jobs : List ProbeJob) : ∃ taken remaining,
    jobs = taken ++ remaining ∧
    (state.enqueueBatchWithOutcome jobs).1 = state.run (taken.map .enqueue) ∧
    (state.enqueueBatchWithOutcome jobs).2 =
      (remaining, state.handedOut (taken.map .enqueue)) ∧
    (∀ job rest, remaining = job :: rest →
      ((state.run (taken.map .enqueue)).enqueueWithOutcome job).2 = .rejected job) := by
  induction jobs generalizing state with
  | nil => exact ⟨[], [], rfl, rfl, rfl, nofun⟩
  | cons job jobs ih =>
    have next := valid_enqueue valid job
    have offered := enqueue_offered valid job
    obtain ⟨taken, remaining, split, final, left, refused⟩ := ih next
    rw [enqueueBatch_cons]
    have whole : job :: jobs = (job :: taken) ++ remaining := by rw [split, List.cons_append]
    cases result : state.enqueueWithOutcome job with
    | mk after outcome =>
      rw [result] at next offered final left refused
      have runs : state.run ((job :: taken).map .enqueue) = after.run (taken.map .enqueue) := by
        simp [run, step, result]
      have handed : state.handedOut ((job :: taken).map .enqueue) =
          outcome.discarded ++ after.handedOut (taken.map .enqueue) := by
        simp [handedOut, step, result]
      cases outcome with
      | rejected back =>
        cases offered
        refine ⟨[], job :: jobs, rfl, rfl, rfl, ?_⟩
        intro first rest same
        cases same
        exact congrArg Prod.snd result
      | enqueued =>
        refine ⟨job :: taken, remaining, whole, final.trans runs.symm, ?_, ?_⟩
        · rw [handed]
          exact left
        · rw [runs]
          exact refused
      | unchanged =>
        refine ⟨job :: taken, remaining, whole, final.trans runs.symm, ?_, ?_⟩
        · rw [handed]
          exact left
        · rw [runs]
          exact refused
      | replaced discarded =>
        refine ⟨job :: taken, remaining, whole, final.trans runs.symm, ?_, ?_⟩
        · rw [handed]
          simp only [left]
          rfl
        · rw [runs]
          exact refused

end ProbeQueueState

/-- In every run the collections of the queue agree and starts keep to the limits, and a job that is
offered is accounted for exactly when no job of a lesser mode takes it up. -/
theorem probe_jobs_conserved (maxGlobal maxPerUpstream maxJobs : Nat) (earlier : List ProbeOp) :
    let state := (ProbeQueueState.new maxGlobal maxPerUpstream maxJobs).run earlier
    state.Valid ∧
    (∀ next job, state.startNext = (next, some job) → job.key ∉ state.active ∧
      state.active.card < state.maxGlobal ∧
      state.activeCount job.key.upstreamId < state.maxPerUpstream) ∧
    (∀ jobs, ∃ taken remaining, jobs = taken ++ remaining ∧
      (state.enqueueBatchWithOutcome jobs).1 = state.run (taken.map .enqueue) ∧
      (state.enqueueBatchWithOutcome jobs).2 =
        (remaining, state.handedOut (taken.map .enqueue)) ∧
      ∀ job rest, remaining = job :: rest →
        ((state.run (taken.map .enqueue)).enqueueWithOutcome job).2 = .rejected job) ∧
    ∀ job later, state.Accounted job later ↔ state.modeFits job = true := by
  intro state
  have valid : state.Valid := ProbeQueueState.valid_run (ProbeQueueState.valid_new ..) earlier
  refine ⟨valid, ?_, ProbeQueueState.enqueueBatch_eq_run valid,
    ProbeQueueState.accounted_iff valid⟩
  intro next job started
  obtain ⟨below, found, -⟩ := ProbeQueueState.startNext_eq_some started
  obtain ⟨idle, room⟩ := ProbeQueueState.startable_iff.1 (List.find?_some found)
  rw [ProbeQueueState.activeOf_eq valid] at room
  exact ⟨idle, below, room⟩

def probeOf (mode : ProbeMode) : ProbeJob where
  key := ⟨"upstream", "", "model", .chatCompletions⟩
  exposedModelSlugs := ∅
  reason := .manual
  mode
  configuration := ⟨"fingerprint", "digest", 1, 1, 1⟩
  planDigest := "digest"

/-- A full probe is swallowed by a reasoning probe of the same key that waits. -/
theorem full_probe_swallowed :
    ¬ ProbeQueueState.Accounted ((ProbeQueueState.new 1 1 4).run [.enqueue (probeOf .reasoning)])
      (probeOf .full) [.startNext] := by
  have valid : ProbeQueueState.Valid
      ((ProbeQueueState.new 1 1 4).run [.enqueue (probeOf .reasoning)]) :=
    ProbeQueueState.valid_run (ProbeQueueState.valid_new ..) _
  rw [ProbeQueueState.accounted_iff valid]
  decide

end ChatGateway
