import ChatGateway.Redis.Downstream

set_option autoImplicit false

/-!
# Account waiter and probe scripts

The queue of requests that wait for a saturated account, and the single probe that tests whether it
has recovered: the scripts that are given a token to recognise their own earlier run.
-/

namespace ChatGateway

structure WaiterTicket where
  requestId : String
  downstreamId : String
  downstreamLeaseId : String
  generation : Int
  registrationToken : String
  registeredAtMs : Int
  logicalDeadline : Int
  leaseDeadline : Int
  deriving DecidableEq, Repr

structure AccountHash where
  generation : Option Int := none
  rejectionCount : Option Int := none
  explicitUntil : Option Int := none
  cooldownUntil : Option Int := none
  saturated : Bool := false
  lastAccess : Option Int := none
  deriving DecidableEq, Repr

namespace AccountHash

def generationOrZero (hash : AccountHash) : Int := hash.generation.getD 0

def deadline (hash : AccountHash) : Int :=
  max (hash.cooldownUntil.getD 0) (hash.explicitUntil.getD 0)

end AccountHash

structure ProbeHash where
  requestId : String
  generation : Int
  ownerToken : String
  expiresAt : Int
  deriving DecidableEq, Repr

/-- The keys of one account, with the lease keys of the downstream that waits for it. A ticket that
does not decode is `none`. -/
structure AccountKeys where
  queue : ZSet
  tickets : Volatile String (Option WaiterTicket)
  sequence : Option (Expiring Int)
  state : Option (Expiring AccountHash)
  probe : Option (Expiring ProbeHash)
  mutation : Option (Expiring Int)
  leases : ZSet
  waiting : ZSet

inductive AccountReply where
  | done
  | rejected (generation : Int)
  | granted (generation : Int) (ownerToken : String) (expiresAt : Int)
  | registered (generation registeredAtMs : Int)
  | wait (retryMs : Int)
  | unsaturated
  | stale
  | invalid
  deriving DecidableEq, Repr

structure RejectionArgs where
  identity : String
  retryAfterMs : Int
  jitterMax : Int
  delays : List Int
  deriving DecidableEq, Repr

namespace AccountKeys

def live (now : Int) (keys : AccountKeys) : AccountKeys where
  queue := keys.queue.live now
  tickets := keys.tickets.live now
  sequence := Expiring.live now keys.sequence
  state := Expiring.live now keys.state
  probe := Expiring.live now keys.probe
  mutation := Expiring.live now keys.mutation
  leases := keys.leases.live now
  waiting := keys.waiting.live now

def deadTicket (now : Int) : Option WaiterTicket → Bool
  | none => true
  | some ticket => ticket.logicalDeadline ≤ now || ticket.leaseDeadline ≤ now

/-- `prune_waiters` -/
def pruneWaiters (now : Int) (keys : AccountKeys) : AccountKeys :=
  { keys with
    queue := keys.queue.update fun members =>
      members.retain fun id _ => !(keys.tickets.entries.lookup id).any (deadTicket now)
    tickets := keys.tickets.update fun tickets => tickets.retain fun _ ticket => !deadTicket now ticket }

def hash (keys : AccountKeys) : AccountHash :=
  (keys.state.map Expiring.value).getD {}

def writeState (change : AccountHash → AccountHash) (keys : AccountKeys) : AccountKeys :=
  { keys with state := Expiring.write {} change keys.state }

def bumpGeneration (keys : AccountKeys) : AccountKeys :=
  keys.writeState fun hash => { hash with generation := some (hash.generationOrZero + 1) }

def probeExpired (now : Int) (keys : AccountKeys) : Bool :=
  keys.probe.any fun probe => 0 < probe.value.expiresAt ∧ probe.value.expiresAt ≤ now

/-- `prune_probe` -/
def pruneProbe (now : Int) (keys : AccountKeys) : AccountKeys :=
  if keys.probeExpired now then ({ keys with probe := none }).bumpGeneration else keys

def prune (now : Int) (keys : AccountKeys) : AccountKeys :=
  (keys.pruneWaiters now).pruneProbe now

section Rejection

variable (digest : String → Nat)

/-- `local_delay`; `digest` reads the first eight hexadecimal digits of the SHA-1 of a text. -/
def localDelay (args : RejectionArgs) (generation : Int) (keys : AccountKeys) : Int :=
  let index := min (keys.hash.rejectionCount.getD 0) (args.delays.length - 1)
  let jitter :=
    if args.jitterMax > 0 then
      (digest (args.identity ++ ":" ++ toString generation) : Int) % (args.jitterMax + 1)
    else 0
  args.delays.getD index.toNat 0 + jitter

/-- `apply_rejection` -/
def applyRejection (now : Int) (args : RejectionArgs) (keys : AccountKeys) : Int × AccountKeys :=
  -- A rejection that a probe reports stays in the generation of that probe.
  let keys := if keys.probe.isSome then keys else keys.bumpGeneration
  let generation := keys.hash.generationOrZero
  let delay := keys.localDelay digest args generation
  let explicit := keys.hash.explicitUntil.getD 0
  let explicitDeadline :=
    if args.retryAfterMs ≥ 0 then max explicit (now + args.retryAfterMs) else explicit
  (generation,
    keys.writeState fun hash =>
      { hash with
        rejectionCount := some (hash.rejectionCount.getD 0 + 1)
        explicitUntil := if args.retryAfterMs ≥ 0 then some explicitDeadline else hash.explicitUntil
        cooldownUntil := some (max (now + delay) explicitDeadline)
        saturated := true
        lastAccess := some now })

end Rejection

def keepState (now retentionMs : Int) (keys : AccountKeys) : AccountKeys :=
  if Expiring.pttl now keys.state < retentionMs then
    { keys with state := Expiring.pexpire now retentionMs keys.state }
  else keys

/-- `retain_state` -/
def retainState (now : Int) (keys : AccountKeys) : AccountKeys :=
  keys.keepState now (max 1200000 (max 0 (keys.hash.deadline - now) + 600000))

def markMutation (now value : Int) (keys : AccountKeys) : AccountKeys :=
  { keys with mutation := Expiring.setPx now 60000 value }

end AccountKeys

/-- The `reject` operation of `account_probe.lua`. -/
def accountProbeReject (digest : String → Nat) (args : RejectionArgs) (now : Int)
    (keys : AccountKeys) : AccountReply × AccountKeys :=
  let keys := (keys.live now).prune now
  if args.delays.isEmpty then (.invalid, keys)
  else
    match keys.mutation with
    | some marker => (.rejected marker.value, keys)
    | none =>
      let rejected := keys.applyRejection digest now args
      (.rejected rejected.1, (rejected.2.markMutation now rejected.1).retainState now)

structure GrantArgs where
  requestId : String
  ticketGeneration : Int
  registeredAtMs : Int
  registrationToken : String
  ownerToken : String
  probeTtlMs : Int
  downstreamLeaseId : Option String
  deriving DecidableEq, Repr

namespace GrantArgs

def atomicDownstream (args : GrantArgs) : Option String :=
  args.downstreamLeaseId.filter (· ≠ "")

def ownsProbe (args : GrantArgs) (now : Int) (probe : ProbeHash) : Bool :=
  probe.requestId = args.requestId ∧ probe.ownerToken = args.ownerToken ∧ probe.expiresAt > now

def holdsTicket (args : GrantArgs) (ticket : WaiterTicket) : Bool :=
  ticket.generation = args.ticketGeneration ∧ ticket.registeredAtMs = args.registeredAtMs ∧
    ticket.registrationToken = args.registrationToken

end GrantArgs

namespace AccountKeys

def pruneLeases (now : Int) (args : GrantArgs) (keys : AccountKeys) : AccountKeys :=
  if args.atomicDownstream.isSome then
    { keys with
      leases := keys.leases.zremrangebyscore .negInf (.closed now)
      waiting := keys.waiting.zremrangebyscore .negInf (.closed now) }
  else keys

def stopWaiting (args : GrantArgs) (keys : AccountKeys) : AccountKeys :=
  { keys with waiting := args.atomicDownstream.elim keys.waiting keys.waiting.zrem }

def ticketOf (keys : AccountKeys) (requestId : String) : Option WaiterTicket :=
  (keys.tickets.entries.lookup requestId).join

def dropTicket (requestId : String) (keys : AccountKeys) : AccountKeys :=
  { keys with
    queue := keys.queue.zrem requestId
    tickets := keys.tickets.update fun tickets => tickets.erase requestId }

def grantRefusal (now : Int) (args : GrantArgs) (keys : AccountKeys) : Option AccountReply :=
  match keys.ticketOf args.requestId with
  | none => some .invalid
  | some ticket =>
    if !args.holdsTicket ticket then some .stale
    else if keys.queue.zrangeFirst.map Prod.fst ≠ some args.requestId then some (.wait 100)
    else
      let probeExpires := (keys.probe.map fun probe => probe.value.expiresAt).getD 0
      if probeExpires > now then some (.wait (probeExpires - now))
      else if keys.hash.deadline > now then some (.wait (keys.hash.deadline - now))
      else if args.atomicDownstream.any fun lease =>
          (keys.leases.zscore lease).isNone || (keys.waiting.zscore lease).isNone then
        some .invalid
      else none

def startProbe (now : Int) (args : GrantArgs) (keys : AccountKeys) : AccountReply × AccountKeys :=
  let generation := keys.hash.generationOrZero
  let expiresAt := now + args.probeTtlMs
  let keys := (keys.dropTicket args.requestId).stopWaiting args
  let probe : ProbeHash := ⟨args.requestId, generation, args.ownerToken, expiresAt⟩
  let keys := { keys with
    probe := Expiring.pexpire now (args.probeTtlMs + 60000) (Expiring.write probe (fun _ => probe)
      keys.probe) }
  (.granted generation args.ownerToken expiresAt,
    (keys.writeState fun hash => { hash with lastAccess := some now }).keepState now
      (args.probeTtlMs + 600000))

end AccountKeys

/-- The `grant` operation of `account_probe.lua`. -/
def accountProbeGrant (args : GrantArgs) (now : Int) (keys : AccountKeys) :
    AccountReply × AccountKeys :=
  let keys := ((keys.live now).prune now).pruneLeases now args
  match keys.probe.filter fun probe => args.ownsProbe now probe.value with
  | some probe =>
    if args.atomicDownstream.any fun lease => (keys.leases.zscore lease).isNone then (.invalid, keys)
    else
      (.granted probe.value.generation args.ownerToken probe.value.expiresAt, keys.stopWaiting args)
  | none =>
    match keys.grantRefusal now args with
    | some reply => (reply, keys)
    | none => keys.startProbe now args

inductive FinishProbeOutcome where
  | accepted
  | concurrencyRejected (rejection : RejectionArgs)
  | attemptFailed
  | cancelled
  | unknown
  deriving DecidableEq, Repr

structure FinishProbeArgs where
  requestId : String
  generation : Int
  ownerToken : String
  outcome : FinishProbeOutcome
  deriving DecidableEq, Repr

namespace AccountKeys

def ownedProbe (now : Int) (args : FinishProbeArgs) (keys : AccountKeys) : Bool :=
  keys.hash.generation.getD (-1) = args.generation ∧
    keys.probe.any fun probe => probe.value.requestId = args.requestId ∧
      probe.value.ownerToken = args.ownerToken ∧ probe.value.expiresAt > now

def endProbe (now : Int) (keys : AccountKeys) : AccountKeys :=
  ({ keys with probe := none }).writeState fun hash => { hash with lastAccess := some now }

def commitFinish (now : Int) (keys : AccountKeys) : AccountReply × AccountKeys :=
  (.done, (keys.markMutation now 1).retainState now)

def finishOutcome (digest : String → Nat) (now : Int) (outcome : FinishProbeOutcome)
    (keys : AccountKeys) : AccountReply × AccountKeys :=
  match outcome with
  | .accepted =>
    (keys.writeState fun hash =>
      { hash with
        cooldownUntil := none
        explicitUntil := none
        rejectionCount := some 0
        saturated := false }).commitFinish now
  | .concurrencyRejected rejection =>
    if rejection.delays.isEmpty then (.invalid, keys)
    else (keys.applyRejection digest now rejection).2.commitFinish now
  | .attemptFailed | .cancelled => keys.commitFinish now
  | .unknown => (.invalid, keys)

end AccountKeys

/-- The `finish` operation of `account_probe.lua`. -/
def accountProbeFinish (digest : String → Nat) (args : FinishProbeArgs) (now : Int)
    (keys : AccountKeys) : AccountReply × AccountKeys :=
  let keys := (keys.live now).prune now
  if keys.mutation.isSome then (.done, keys)
  else if !keys.ownedProbe now args then (.stale, keys)
  else (keys.endProbe now).finishOutcome digest now args.outcome

structure RegisterArgs where
  onlyIfSaturated : Bool
  requestId : String
  downstreamId : String
  downstreamLeaseId : String
  waiterBudgetMs : Int
  waiterTtlMs : Int
  registrationToken : String
  deriving DecidableEq, Repr

namespace AccountKeys

def enqueue (now : Int) (args : RegisterArgs) (keys : AccountKeys) : AccountReply × AccountKeys :=
  let keys := keys.dropTicket args.requestId
  let sequence := (keys.sequence.map Expiring.value).getD 0 + 1
  let generation := keys.hash.generationOrZero
  let ticket : WaiterTicket :=
    { requestId := args.requestId
      downstreamId := args.downstreamId
      downstreamLeaseId := args.downstreamLeaseId
      generation := generation
      registrationToken := args.registrationToken
      registeredAtMs := now
      logicalDeadline := now + args.waiterBudgetMs
      leaseDeadline := now + args.waiterTtlMs }
  let retentionMs := args.waiterTtlMs + 600000
  (.registered generation now,
    ({ keys with
      queue := (keys.queue.zadd sequence args.requestId).pexpire now retentionMs
      tickets := (keys.tickets.update fun tickets =>
        tickets.insert args.requestId (some ticket)).pexpire now retentionMs
      sequence := Expiring.pexpire now retentionMs (Expiring.write 0 (· + 1) keys.sequence)
      }).keepState now retentionMs)

end AccountKeys

/-- The `register` and `register_if_saturated` operations of `account_waiter.lua`. -/
def accountWaiterRegister (args : RegisterArgs) (now : Int) (keys : AccountKeys) :
    AccountReply × AccountKeys :=
  let keys := (keys.live now).pruneWaiters now
  if args.onlyIfSaturated ∧ !keys.hash.saturated then (.unsaturated, keys)
  else
    match (keys.ticketOf args.requestId).filter
        (·.registrationToken = args.registrationToken) with
    | some ticket => (.registered ticket.generation ticket.registeredAtMs, keys)
    | none => keys.enqueue now args

end ChatGateway
