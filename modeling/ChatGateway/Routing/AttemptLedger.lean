import ChatGateway.Routing.RouteRetry
import Mathlib.Data.List.MinMax
import Mathlib.Data.List.Sort
import Mathlib.Data.Prod.Lex
import Mathlib.Data.String.Basic

set_option autoImplicit false

/-!
# The attempt ledger

`route_attempts.rs`: the routes of a request that failed and those that were skipped, with the views
that the terminal answer is made of.
-/

namespace ChatGateway

structure AttemptFailure where
  routeId : String
  upstreamStatus : Option Nat := none
  upstreamErrorCode : Option String := none
  upstreamName : Option String := none
  upstreamErrorBodyExcerpt : Option String := none
  failureClass : RouteFailureClass
  retryAfter : Option Duration := none
deriving DecidableEq, Repr

structure FailureClassSummary where
  failureClass : RouteFailureClass
  routes : Nat
  upstreamStatus : Option Nat
  upstreamErrorCode : Option String
  upstreamName : Option String
  upstreamErrorBodyExcerpt : Option String
deriving DecidableEq, Repr

structure AttemptLedger where
  failures : List AttemptFailure := []
  cooledCandidates : List AttemptFailure := []
  localGateRejectedCount : Nat := 0
deriving DecidableEq, Repr

def mostCommon {A : Type} [LinearOrder A] (values : List A) : Option A :=
  values.argmax fun value => toLex (values.count value, OrderDual.toDual value)

namespace AttemptLedger

def replaceOrPush (entries : List AttemptFailure) (failure : AttemptFailure) : List AttemptFailure :=
  if entries.any (·.routeId = failure.routeId) then
    entries.map fun existing => if existing.routeId = failure.routeId then failure else existing
  else entries ++ [failure]

def record (ledger : AttemptLedger) (failure : AttemptFailure) : AttemptLedger :=
  { ledger with
    cooledCandidates := ledger.cooledCandidates.filter fun candidate =>
      candidate.routeId ≠ failure.routeId
    failures := replaceOrPush ledger.failures failure }

def recordCooled (ledger : AttemptLedger) (failure : AttemptFailure) : AttemptLedger :=
  if ledger.failures.any (·.routeId = failure.routeId) then ledger
  else
    match ledger.cooledCandidates.find? fun candidate => candidate.routeId = failure.routeId with
    | some existing =>
      if failure.retryAfter.getD Duration.maximum < existing.retryAfter.getD Duration.maximum then
        { ledger with cooledCandidates := replaceOrPush ledger.cooledCandidates failure }
      else ledger
    | none => { ledger with cooledCandidates := ledger.cooledCandidates ++ [failure] }

def recordCooledLocalGate (ledger : AttemptLedger) (failure : AttemptFailure) : AttemptLedger :=
  let recorded := ledger.recordCooled failure
  { recorded with localGateRejectedCount := recorded.localGateRejectedCount + 1 }

variable (ledger : AttemptLedger)

def candidates : List AttemptFailure :=
  ledger.failures ++ ledger.cooledCandidates

def cooledCandidateCount : Nat :=
  ledger.cooledCandidates.length

def distinctRouteCount : Nat :=
  ((ledger.candidates.map (·.routeId)).dedup).length

def ofClass (failureClass : RouteFailureClass) : List AttemptFailure :=
  ledger.candidates.filter fun failure => failure.failureClass = failureClass

def classCount (failureClass : RouteFailureClass) : Nat :=
  (ledger.ofClass failureClass).length

def classSummary (failureClass : RouteFailureClass) : FailureClassSummary where
  failureClass := failureClass
  routes := ledger.classCount failureClass
  upstreamStatus := mostCommon ((ledger.ofClass failureClass).filterMap (·.upstreamStatus))
  upstreamErrorCode := mostCommon ((ledger.ofClass failureClass).filterMap (·.upstreamErrorCode))
  upstreamName := mostCommon ((ledger.ofClass failureClass).filterMap (·.upstreamName))
  upstreamErrorBodyExcerpt :=
    mostCommon ((ledger.ofClass failureClass).filterMap (·.upstreamErrorBodyExcerpt))

def classSummaries : List FailureClassSummary :=
  ((RouteFailureClass.all.filter fun failureClass => ledger.classCount failureClass ≠ 0).map
    ledger.classSummary).insertionSort fun a b =>
      toLex (OrderDual.toDual a.routes, a.failureClass.asStr) ≤
        toLex (OrderDual.toDual b.routes, b.failureClass.asStr)

def terminalObservation : Option AttemptFailure :=
  ledger.failures.getLast?.or
    (ledger.cooledCandidates.argmin fun failure => failure.retryAfter.getD Duration.maximum)

def observationForClass (failureClass : RouteFailureClass) : Option AttemptFailure :=
  (ledger.ofClass failureClass).argmin fun failure =>
    toLex (failure.retryAfter.getD Duration.maximum, failure.routeId)

def temporaryCandidates : List AttemptFailure :=
  ledger.candidates.filter (·.failureClass.isTemporary)

def terminalObservationFor : TerminalFailure → Option AttemptFailure
  | .temporary retryAfter =>
    ledger.temporaryCandidates.argmin fun failure =>
      toLex (if failure.retryAfter ≠ some retryAfter then 1 else 0,
        toLex (failure.retryAfter.getD Duration.maximum, failure.routeId))
  | .credentials => ledger.observationForClass .credentials
  | .modelUnsupported => ledger.observationForClass .modelUnsupported
  | .capabilityUnsupported => ledger.observationForClass .featureUnsupported
  | .protocolUnsupported => ledger.observationForClass .protocolUnsupported
  | .mixedRoutesExhausted => ledger.terminalObservation

def allOfClass (failureClass : RouteFailureClass) : Bool :=
  ledger.candidates.all fun failure => failure.failureClass = failureClass

def terminalFailure : Option TerminalFailure :=
  if ledger.candidates = [] then none
  else if ledger.candidates.any (·.failureClass.isTemporary) then
    some (.temporary (((ledger.temporaryCandidates.filterMap (·.retryAfter)).min?).getD
      (Duration.fromSecs 1)))
  else if ledger.allOfClass .credentials then some .credentials
  else if ledger.allOfClass .modelUnsupported then some .modelUnsupported
  else if ledger.allOfClass .featureUnsupported then some .capabilityUnsupported
  else if ledger.allOfClass .protocolUnsupported then some .protocolUnsupported
  else some .mixedRoutesExhausted

end AttemptLedger

inductive LedgerCall where
  | record (failure : AttemptFailure)
  | recordCooled (failure : AttemptFailure)
  | recordCooledLocalGate (failure : AttemptFailure)
deriving DecidableEq, Repr

namespace LedgerCall

def failure : LedgerCall → AttemptFailure
  | record failure | recordCooled failure | recordCooledLocalGate failure => failure

def apply (ledger : AttemptLedger) : LedgerCall → AttemptLedger
  | record failure => ledger.record failure
  | recordCooled failure => ledger.recordCooled failure
  | recordCooledLocalGate failure => ledger.recordCooledLocalGate failure

def run (calls : List LedgerCall) : AttemptLedger :=
  calls.foldl apply {}

end LedgerCall

end ChatGateway
