import ChatGateway.RouteHealth.Types
import ChatGateway.Shared.Table

set_option autoImplicit false

/-!
# The account recovery gate

`AccountConcurrencyRegistry` of `account_concurrency.rs`: requests that met a saturated account
queue for it, and one of them at a time probes whether it takes requests again. Uuids are drawn by
the caller of the model; `jitterHash` stands for the `DefaultHasher` of the standard library.
-/

namespace ChatGateway

def fifoPollInterval : Duration := Duration.fromMillis 100

structure AccountConcurrencyKey where
  upstreamId : String
  keyFingerprint : String
  deriving DecidableEq, Repr

structure AccountWaitTicket where
  account : AccountConcurrencyKey
  requestId : String
  downstreamId : String
  downstreamLeaseId : String
  generation : Nat
  registeredAtMs : Nat
  registrationToken : String
  deriving DecidableEq, Repr

structure AccountProbeLease where
  account : AccountConcurrencyKey
  requestId : String
  generation : Nat
  ownerToken : String
  expiresAtMs : Nat
  deriving DecidableEq, Repr

inductive AccountProbeOutcome where
  | concurrencyRejected (retryAfter : Option Duration)
  | accepted
  | attemptFailed
  | cancelled
  deriving DecidableEq, Repr

inductive ProbeDecision where
  | granted (lease : AccountProbeLease)
  | wait (retryAfter : Duration)
  deriving DecidableEq, Repr

inductive AccountLeaseError where
  | missing
  | staleGeneration
  | notOwner
  | expired
  deriving DecidableEq, Repr

structure AccountConcurrencyTuning where
  probeDelays : List Duration
  jitterMax : Duration
  waiterBudget : Duration
  waiterTtl : Duration
  probeTtl : Duration
  renewalInterval : Duration
  idleRetention : Duration
  deriving DecidableEq, Repr

structure AccountConcurrencySnapshot where
  generation : Nat
  waiters : Nat
  probeInFlight : Bool
  saturated : Bool
  retryAfter : Duration
  deriving DecidableEq, Repr

structure TicketRecord where
  ticket : AccountWaitTicket
  logicalDeadline : Instant
  leaseDeadline : Instant
  deriving DecidableEq, Repr

structure ProbeRecord where
  lease : AccountProbeLease
  expiresAt : Instant
  deriving DecidableEq, Repr

structure AccountState where
  generation : Nat
  rejectionCount : Nat
  cooldownUntil : Option Instant
  explicitRetryAfterUntil : Option Instant
  tickets : List TicketRecord
  probe : Option ProbeRecord
  saturated : Bool
  lastAccess : Instant
  deriving DecidableEq, Repr

/-- `saturating_add(1)` on a `u64` or a `usize`. -/
def saturatingSucc64 (value : Nat) : Nat := min (value + 1) (2 ^ 64 - 1)

def ticketIdentityMatches (left right : AccountWaitTicket) : Bool :=
  left.requestId == right.requestId && left.downstreamId == right.downstreamId &&
    left.downstreamLeaseId == right.downstreamLeaseId &&
    left.registeredAtMs == right.registeredAtMs &&
    left.registrationToken == right.registrationToken

def ticketMatches (left right : AccountWaitTicket) : Bool :=
  ticketIdentityMatches left right && left.generation == right.generation

namespace AccountState

def new (now : Instant) : AccountState where
  generation := 0
  rejectionCount := 0
  cooldownUntil := none
  explicitRetryAfterUntil := none
  tickets := []
  probe := none
  saturated := false
  lastAccess := now

def pruneProbe (state : AccountState) (now : Instant) : AccountState :=
  if state.probe.any fun probe => probe.expiresAt ≤ now then
    { state with
      probe := none
      generation := saturatingSucc64 state.generation
      lastAccess := now }
  else
    state

def pruneAccount (state : AccountState) (now : Instant) : AccountState :=
  let pruned := pruneProbe
    { state with
      tickets := state.tickets.filter fun record =>
        now < record.logicalDeadline && now < record.leaseDeadline } now
  { pruned with
    explicitRetryAfterUntil := state.explicitRetryAfterUntil.filter (now < ·)
    cooldownUntil := state.cooldownUntil.filter (now < ·) }

def retryAfter (state : AccountState) (now : Instant) : Duration :=
  max ((state.explicitRetryAfterUntil.map (· - now)).getD 0)
    ((state.cooldownUntil.map (· - now)).getD 0)

def validateProbe (state : AccountState) (lease : AccountProbeLease) :
    Except AccountLeaseError Unit :=
  if state.generation ≠ lease.generation then
    .error .staleGeneration
  else
    match state.probe with
    | none => .error .missing
    | some probe =>
      if probe.lease.ownerToken ≠ lease.ownerToken then
        .error .notOwner
      else if probe.lease.requestId ≠ lease.requestId then
        .error .notOwner
      else
        .ok ()

end AccountState

structure AccountConcurrencyRegistry where
  tuning : AccountConcurrencyTuning
  origin : Instant
  accounts : Table AccountConcurrencyKey AccountState

namespace AccountConcurrencyRegistry

def new (tuning : AccountConcurrencyTuning) (now : Instant) : AccountConcurrencyRegistry where
  tuning :=
    if tuning.probeDelays.isEmpty then { tuning with probeDelays := [Duration.fromMillis 100] }
    else tuning
  origin := now
  accounts := ∅

def instantMs (registry : AccountConcurrencyRegistry) (instant : Instant) : Nat :=
  min (Duration.asMillis (instant - registry.origin)) (2 ^ 64 - 1)

def defaultRetryAfter (registry : AccountConcurrencyRegistry) : Duration :=
  registry.tuning.probeDelays.head?.getD registry.tuning.renewalInterval

def updateRuntimeTuning (registry : AccountConcurrencyRegistry) (concurrencyProbeDelaysMs : List Nat)
    (recoveryMaxWaitMs : Nat) (now : Instant) : AccountConcurrencyRegistry :=
  let waiterBudget := Duration.fromMillis (max recoveryMaxWaitMs 1)
  let tuning :=
    { registry.tuning with
      probeDelays := normalizeConcurrencyProbeDelays concurrencyProbeDelaysMs
      waiterBudget := waiterBudget
      waiterTtl := waiterBudget + Duration.fromSecs 60 }
  { registry with
    tuning := tuning
    accounts := registry.accounts.mapEntries fun _ state =>
      { state with
        tickets := state.tickets.map fun record =>
          { record with
            logicalDeadline := min record.logicalDeadline (now + tuning.waiterBudget)
            leaseDeadline := min record.leaseDeadline (now + tuning.waiterTtl) } } }

def setAccount (registry : AccountConcurrencyRegistry) (key : AccountConcurrencyKey)
    (state : AccountState) : AccountConcurrencyRegistry :=
  { registry with accounts := registry.accounts.modify key fun _ => state }

/-- `entry(..).or_insert_with(AccountState::new)` followed by an update of the account. -/
def withAccountOrNew (registry : AccountConcurrencyRegistry) (key : AccountConcurrencyKey)
    (now : Instant) (update : AccountState → AccountState) : AccountConcurrencyRegistry :=
  let state := (registry.accounts.lookup key).getD (AccountState.new now)
  { registry with accounts := registry.accounts.insert key (update state) }

section Rejections

variable (jitterHash : AccountConcurrencyKey → Nat → Nat)

def jitter (registry : AccountConcurrencyRegistry) (key : AccountConcurrencyKey)
    (generation : Nat) : Duration :=
  let maxMs := min (Duration.asMillis registry.tuning.jitterMax) (2 ^ 64 - 1)
  if maxMs = 0 then 0
  else Duration.fromMillis (jitterHash key generation % min (maxMs + 1) (2 ^ 64 - 1))

def applyRejection (registry : AccountConcurrencyRegistry) (key : AccountConcurrencyKey)
    (retryAfter : Option Duration) (now : Instant) (advanceGeneration : Bool)
    (state : AccountState) : AccountState :=
  let generation :=
    if advanceGeneration then saturatingSucc64 state.generation else state.generation
  let delays := registry.tuning.probeDelays
  let scheduleIndex := min state.rejectionCount (delays.length - 1)
  -- The schedule is never empty, so the index is in range.
  let localDelay := delays[scheduleIndex]?.getD 0 + registry.jitter jitterHash key generation
  let localDeadline := now + localDelay
  let explicit := match retryAfter with
    | some retryAfter =>
      some ((state.explicitRetryAfterUntil.map (max · (now + retryAfter))).getD (now + retryAfter))
    | none => state.explicitRetryAfterUntil
  { state with
    generation := generation
    saturated := true
    rejectionCount := saturatingSucc64 state.rejectionCount
    explicitRetryAfterUntil := explicit
    cooldownUntil := some ((explicit.map (max · localDeadline)).getD localDeadline)
    lastAccess := now }

def reject (registry : AccountConcurrencyRegistry) (key : AccountConcurrencyKey)
    (retryAfter : Option Duration) (now : Instant) : AccountConcurrencyRegistry :=
  registry.withAccountOrNew key now fun state =>
    let state := state.pruneAccount now
    registry.applyRejection jitterHash key retryAfter now state.probe.isNone state

end Rejections

def enqueue (registry : AccountConcurrencyRegistry) (ticket : AccountWaitTicket) (now : Instant)
    (state : AccountState) : AccountState :=
  { state with
    tickets := state.tickets.filter (·.ticket.requestId ≠ ticket.requestId) ++
      [{ ticket := ticket
         logicalDeadline := now + registry.tuning.waiterBudget
         leaseDeadline := now + registry.tuning.waiterTtl }]
    lastAccess := now }

def newTicket (registry : AccountConcurrencyRegistry) (key : AccountConcurrencyKey)
    (requestId downstreamId downstreamLeaseId registrationToken : String) (now : Instant)
    (state : AccountState) : AccountWaitTicket where
  account := key
  requestId := requestId
  downstreamId := downstreamId
  downstreamLeaseId := downstreamLeaseId
  generation := state.generation
  registeredAtMs := registry.instantMs now
  registrationToken := registrationToken

def registerWaiter (registry : AccountConcurrencyRegistry) (key : AccountConcurrencyKey)
    (requestId downstreamId downstreamLeaseId registrationToken : String) (now : Instant) :
    AccountConcurrencyRegistry × AccountWaitTicket :=
  let state := ((registry.accounts.lookup key).getD (AccountState.new now)).pruneAccount now
  let ticket := registry.newTicket key requestId downstreamId downstreamLeaseId registrationToken
    now state
  (registry.withAccountOrNew key now fun state =>
    registry.enqueue ticket now (state.pruneAccount now), ticket)

def registerWaiterIfSaturated (registry : AccountConcurrencyRegistry) (key : AccountConcurrencyKey)
    (requestId downstreamId downstreamLeaseId registrationToken : String) (now : Instant) :
    AccountConcurrencyRegistry × Option AccountWaitTicket :=
  match registry.accounts.lookup key with
  | none => (registry, none)
  | some state =>
    let state := state.pruneAccount now
    if !state.saturated then
      (registry.setAccount key state, none)
    else
      let ticket := registry.newTicket key requestId downstreamId downstreamLeaseId
        registrationToken now state
      (registry.setAccount key (registry.enqueue ticket now state), some ticket)

def cancelWaiter (registry : AccountConcurrencyRegistry) (ticket : AccountWaitTicket)
    (now : Instant) : AccountConcurrencyRegistry :=
  match registry.accounts.lookup ticket.account with
  | none => registry
  | some state =>
    registry.setAccount ticket.account
      { state with
        tickets := state.tickets.filter fun record => !ticketMatches record.ticket ticket
        lastAccess := now }

def renewWaiter (registry : AccountConcurrencyRegistry) (ticket : AccountWaitTicket)
    (now : Instant) : AccountConcurrencyRegistry × Except AccountLeaseError Unit :=
  match registry.accounts.lookup ticket.account with
  | none => (registry, .error .missing)
  | some state =>
    let state := state.pruneAccount now
    let pruned := registry.setAccount ticket.account state
    let matching := fun record : TicketRecord => ticketIdentityMatches record.ticket ticket
    match state.tickets.find? matching with
    | none => (pruned, .error .missing)
    | some record =>
      if record.ticket.generation ≠ ticket.generation then
        (pruned, .error .staleGeneration)
      else if record.logicalDeadline ≤ now ∨ record.leaseDeadline ≤ now then
        (pruned, .error .expired)
      else
        (registry.setAccount ticket.account
          { state with
            tickets := state.tickets.modify (state.tickets.findIdx matching) fun record =>
              { record with leaseDeadline := now + registry.tuning.waiterTtl }
            lastAccess := now }, .ok ())

def tryProbe (registry : AccountConcurrencyRegistry) (ticket : AccountWaitTicket)
    (ownerToken : String) (now : Instant) : AccountConcurrencyRegistry × ProbeDecision :=
  match registry.accounts.lookup ticket.account with
  | none => (registry, .wait registry.defaultRetryAfter)
  | some state =>
    let state := state.pruneAccount now
    let pruned := registry.setAccount ticket.account state
    match state.tickets.find? fun record => ticketIdentityMatches record.ticket ticket with
    | none => (pruned, .wait registry.defaultRetryAfter)
    | some record =>
      if record.ticket.generation ≠ ticket.generation then
        (pruned, .wait registry.defaultRetryAfter)
      else if !(state.tickets.head?.any fun record => ticketIdentityMatches record.ticket ticket) then
        (pruned, .wait fifoPollInterval)
      else
        match state.probe with
        | some probe => (pruned, .wait (probe.expiresAt - now))
        | none =>
          if state.retryAfter now ≠ 0 then
            (pruned, .wait (state.retryAfter now))
          else
            let expiresAt := now + registry.tuning.probeTtl
            let lease : AccountProbeLease :=
              { account := ticket.account
                requestId := record.ticket.requestId
                generation := state.generation
                ownerToken := ownerToken
                expiresAtMs := registry.instantMs expiresAt }
            (registry.setAccount ticket.account
              { state with
                tickets := state.tickets.tail
                probe := some { lease := lease, expiresAt := expiresAt }
                lastAccess := now }, .granted lease)

def renewProbe (registry : AccountConcurrencyRegistry) (lease : AccountProbeLease)
    (now : Instant) : AccountConcurrencyRegistry × Except AccountLeaseError Unit :=
  match registry.accounts.lookup lease.account with
  | none => (registry, .error .missing)
  | some state =>
    let state := state.pruneAccount now
    match state.validateProbe lease with
    | .error error => (registry.setAccount lease.account state, .error error)
    | .ok () =>
      let expiresAt := now + registry.tuning.probeTtl
      (registry.setAccount lease.account
        { state with
          probe := state.probe.map fun probe =>
            { lease := { probe.lease with expiresAtMs := registry.instantMs expiresAt }
              expiresAt := expiresAt }
          lastAccess := now }, .ok ())

section Outcomes

variable (jitterHash : AccountConcurrencyKey → Nat → Nat)

/-- The account after its probe was finished with `outcome`. -/
def settle (registry : AccountConcurrencyRegistry) (account : AccountConcurrencyKey)
    (outcome : AccountProbeOutcome) (now : Instant) (state : AccountState) : AccountState :=
  let state := { state with probe := none, lastAccess := now }
  match outcome with
  | .concurrencyRejected retryAfter =>
    registry.applyRejection jitterHash account retryAfter now true state
  | .accepted =>
    { state with
      cooldownUntil := none
      explicitRetryAfterUntil := none
      rejectionCount := 0
      saturated := false }
  | .attemptFailed | .cancelled => state

def finishProbe (registry : AccountConcurrencyRegistry) (lease : AccountProbeLease)
    (outcome : AccountProbeOutcome) (now : Instant) :
    AccountConcurrencyRegistry × Except AccountLeaseError Unit :=
  match registry.accounts.lookup lease.account with
  | none => (registry, .error .missing)
  | some state =>
    let state := state.pruneAccount now
    match state.validateProbe lease with
    | .error error => (registry.setAccount lease.account state, .error error)
    | .ok () =>
      (registry.setAccount lease.account
        (registry.settle jitterHash lease.account outcome now state), .ok ())

end Outcomes

def snapshot (registry : AccountConcurrencyRegistry) (key : AccountConcurrencyKey)
    (now : Instant) : AccountConcurrencyRegistry × AccountConcurrencySnapshot :=
  match registry.accounts.lookup key with
  | none => (registry, ⟨0, 0, false, false, 0⟩)
  | some state =>
    let state := state.pruneAccount now
    (registry.setAccount key state,
      { generation := state.generation
        waiters := state.tickets.length
        probeInFlight := state.probe.isSome
        saturated := state.saturated
        retryAfter := state.retryAfter now })

def pruneIdle (registry : AccountConcurrencyRegistry) (now : Instant) :
    AccountConcurrencyRegistry × Nat :=
  let pruned := registry.accounts.mapEntries fun _ state => state.pruneAccount now
  let kept := pruned.retain fun _ state =>
    0 < state.retryAfter now || !state.tickets.isEmpty || state.probe.isSome ||
      now - state.lastAccess ≤ registry.tuning.idleRetention
  ({ registry with accounts := kept }, pruned.entries.length - kept.entries.length)

end AccountConcurrencyRegistry

end ChatGateway
