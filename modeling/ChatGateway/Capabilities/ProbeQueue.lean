import ChatGateway.RouteHealth.Types
import ChatGateway.Shared.Table
import Mathlib.Data.Finset.Card

set_option autoImplicit false

/-!
# The capability probe queue

Jobs wait until their key is not being probed and there is room for their upstream.
-/

namespace ChatGateway

structure DialectProfileKey where
  upstreamId : String
  keyFingerprint : String
  runtimeModelSlug : String
  protocol : WireProtocol
deriving DecidableEq, Repr

inductive ProbeReason where
  | configurationChanged
  | modelDiscovered
  | scheduledRefresh
  | dialectError
  | manual
deriving DecidableEq, Repr

inductive ProbeMode where
  | full
  | reasoning
deriving DecidableEq, Repr

structure ProbeConfigurationBinding where
  configurationFingerprint : String
  configurationDigest : String
  configurationSchemaVersion : Nat
  configurationRevision : Nat
  probeSchemaVersion : Nat
deriving DecidableEq, Repr

structure ProbeJob where
  key : DialectProfileKey
  exposedModelSlugs : Finset String
  reason : ProbeReason
  mode : ProbeMode
  configuration : ProbeConfigurationBinding
  planDigest : String
deriving DecidableEq

def sameJobConfiguration (left right : ProbeJob) : Bool :=
  left.configuration = right.configuration && left.planDigest = right.planDigest

inductive EnqueueOutcome where
  | enqueued
  | unchanged
  | replaced (job : ProbeJob)
  | rejected (job : ProbeJob)
deriving DecidableEq

structure ProbeQueueState where
  pending : List ProbeJob := []
  known : Finset DialectProfileKey := ∅
  active : Finset DialectProfileKey := ∅
  activeJobs : Table DialectProfileKey ProbeJob := ∅
  activeByUpstream : Table String Nat := ∅
  maxGlobal : Nat
  maxPerUpstream : Nat
  maxJobs : Nat

def changeFirst (key : DialectProfileKey) (change : ProbeJob → ProbeJob) :
    List ProbeJob → List ProbeJob
  | [] => []
  | job :: rest => if job.key = key then change job :: rest else job :: changeFirst key change rest

namespace ProbeQueueState

def new (maxGlobal maxPerUpstream maxJobs : Nat) : ProbeQueueState where
  maxGlobal := max maxGlobal 1
  maxPerUpstream := max maxPerUpstream 1
  maxJobs := max maxJobs 1

def isFull (state : ProbeQueueState) : Bool :=
  state.maxJobs ≤ state.active.card + state.pending.length

def pendingJob (state : ProbeQueueState) (key : DialectProfileKey) : Option ProbeJob :=
  state.pending.find? fun pending => pending.key = key

def activeAbsorbs (state : ProbeQueueState) (job : ProbeJob) : Bool :=
  (state.activeJobs.lookup job.key).any fun active =>
    sameJobConfiguration active job && job.exposedModelSlugs ⊆ active.exposedModelSlugs

def pushBack (state : ProbeQueueState) (job : ProbeJob) : ProbeQueueState :=
  { state with pending := state.pending ++ [job] }

def enqueueWithOutcome (state : ProbeQueueState) (job : ProbeJob) :
    ProbeQueueState × EnqueueOutcome :=
  if job.key ∈ state.known then
    match state.pendingJob job.key with
    | some pending =>
      if sameJobConfiguration pending job then
        ({ state with
            pending := changeFirst job.key (fun pending => { pending with
              exposedModelSlugs := pending.exposedModelSlugs ∪ job.exposedModelSlugs })
              state.pending },
          .unchanged)
      else
        ({ state with pending := changeFirst job.key (fun _ => job) state.pending },
          .replaced pending)
    | none =>
      if job.key ∈ state.active then
        if state.activeAbsorbs job then (state, .unchanged)
        else if state.isFull then (state, .rejected job)
        else (state.pushBack job, .enqueued)
      else (state, .unchanged)
  else if state.isFull then (state, .rejected job)
  else ({ state with known := insert job.key state.known }.pushBack job, .enqueued)

def enqueueBatchWithOutcome (state : ProbeQueueState) :
    List ProbeJob → ProbeQueueState × List ProbeJob × List ProbeJob
  | [] => (state, [], [])
  | job :: jobs =>
    match state.enqueueWithOutcome job with
    | (next, .rejected job) => (next, job :: jobs, [])
    | (next, .replaced discarded) =>
      let (final, remaining, replaced) := next.enqueueBatchWithOutcome jobs
      (final, remaining, discarded :: replaced)
    | (next, _) => next.enqueueBatchWithOutcome jobs

def setLimits (state : ProbeQueueState) (maxGlobal maxPerUpstream : Nat) : ProbeQueueState :=
  { state with maxGlobal := max maxGlobal 1, maxPerUpstream := max maxPerUpstream 1 }

def clearPending (state : ProbeQueueState) : ProbeQueueState × List ProbeJob :=
  ({ state with pending := [], known := state.active }, state.pending)

def activeOf (state : ProbeQueueState) (upstreamId : String) : Nat :=
  (state.activeByUpstream.lookup upstreamId).getD 0

def canStart (state : ProbeQueueState) (job : ProbeJob) : Bool :=
  job.key ∉ state.active && state.activeOf job.key.upstreamId < state.maxPerUpstream

def startNext (state : ProbeQueueState) : ProbeQueueState × Option ProbeJob :=
  if state.maxGlobal ≤ state.active.card then (state, none)
  else
    match state.pending.find? state.canStart with
    | none => (state, none)
    | some job =>
      ({ state with
          pending := state.pending.eraseP state.canStart
          active := insert job.key state.active
          activeJobs := state.activeJobs.insert job.key job
          activeByUpstream := state.activeByUpstream.insert job.key.upstreamId
            (state.activeOf job.key.upstreamId + 1) },
        some job)

def releaseUpstream (counts : Table String Nat) (upstreamId : String) : Table String Nat :=
  match counts.lookup upstreamId with
  | none => counts
  | some count =>
    if count - 1 = 0 then counts.erase upstreamId else counts.insert upstreamId (count - 1)

def finish (state : ProbeQueueState) (key : DialectProfileKey) : ProbeQueueState :=
  let stopped := if key ∈ state.active then
      { state with
        active := state.active.erase key
        activeJobs := state.activeJobs.erase key
        activeByUpstream := releaseUpstream state.activeByUpstream key.upstreamId }
    else state
  if (stopped.pendingJob key).isSome then stopped
  else { stopped with known := stopped.known.erase key }

end ProbeQueueState

end ChatGateway
