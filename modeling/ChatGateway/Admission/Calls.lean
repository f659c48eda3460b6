import ChatGateway.Admission.Book

set_option autoImplicit false

/-!
# Calls to an admission backend

The calls that both backends answer, with what they hand out. A call refers to an earlier
admission by the number of the step that made it.
-/

namespace ChatGateway

structure DownstreamAdmission where
  reservation : DownstreamRequestReservation
  lease : DownstreamConcurrencyLease
deriving DecidableEq

structure UuidDraws where
  event : Nat → String
  lease : Nat → String
  log : Nat → String
  event_injective : Function.Injective event
  lease_injective : Function.Injective lease

structure AdmissionSettings where
  config : LedgerConfig
  modelCaseInsensitiveMatching : Bool
  downstreamLeaseTtlSeconds : Nat

inductive AdmissionOp where
  | admitOne (downstream : DownstreamConfig) (model : Text)
  | rollback (step : Nat)
  | release (step : Nat)
  | record (log : UsageLog)

structure AdmissionStep where
  time : Nat
  op : AdmissionOp

def AdmissionSettings.groupFor (settings : AdmissionSettings) (downstream : DownstreamConfig)
    (model : Text) : Option ModelConcurrencyGroup :=
  downstream.concurrencyGroupForModel model settings.modelCaseInsensitiveMatching

def UuidDraws.admission (draws : UuidDraws) (step : Nat) (key : DownstreamLeaseKey) :
    DownstreamAdmission where
  reservation := ⟨key.downstreamId, some (draws.event step)⟩
  lease := ⟨key.downstreamId, key.groupName, some (draws.lease step), step⟩

def unlimitedAdmission (downstream : DownstreamConfig) (step : Nat) : DownstreamAdmission where
  reservation := ⟨downstream.id, none⟩
  lease := ⟨downstream.id, "", none, step⟩

def handedOut (issued : List (Option DownstreamAdmission)) (step : Nat) :
    Option DownstreamAdmission :=
  (issued[step]?).join

def rejectionOf {Handle : Type} :
    Except DownstreamAdmissionRejection Handle → Option DownstreamAdmissionRejection
  | .error rejection => some rejection
  | .ok _ => none

section Checks

variable {Reply Verdict : Type} {agrees : Reply → Verdict → Prop} {first second : Option Reply}
  {firstVerdict secondVerdict : Option Verdict}

theorem rel_orElse (one : Option.Rel agrees first firstVerdict)
    (other : Option.Rel agrees second secondVerdict) :
    Option.Rel agrees (first <|> second) (firstVerdict <|> secondVerdict) := by
  cases one with
  | some agreed => exact .some agreed
  | none => exact other

theorem rel_none_iff (checks : Option.Rel agrees first firstVerdict) :
    first = none ↔ firstVerdict = none := by
  cases checks <;> simp

theorem rel_of_some {reply : Reply} (checks : Option.Rel agrees (some reply) firstVerdict) :
    ∃ verdict, firstVerdict = some verdict ∧ agrees reply verdict := by
  cases checks with
  | some agreed => exact ⟨_, rfl, agreed⟩

end Checks

def bookedCost (config : LedgerConfig) (log : UsageLog) : Option (String × BookedCost) :=
  (usageEvent config log).map fun entry => (entry.1, ⟨log.id, entry.2.createdAt, entry.2.tokens⟩)

def AdmissionBook.apply (settings : AdmissionSettings) (draws : UuidDraws) (book : AdmissionBook)
    (step : AdmissionStep) : AdmissionBook :=
  match step.op with
  | .admitOne downstream model =>
    book.admitOne settings.config downstream (settings.groupFor downstream model) step.time
  | .rollback admitted => book.rollback admitted
  | .release admitted => book.release admitted
  | .record log =>
    book.record (bookedCost settings.config
      (log.stamped (draws.log book.issued.length) step.time))

theorem bookedCost_limited {config : LedgerConfig} {log : UsageLog} {scopeId : String}
    {booked : BookedCost} (found : bookedCost config log = some (scopeId, booked)) :
    (config.limits.lookup scopeId).filter (0 < ·) ≠ none := by
  obtain ⟨entry, event, rest⟩ := Option.map_eq_some_iff.1 found
  obtain ⟨rfl, -⟩ := Prod.mk.inj rest
  rw [usageEvent] at event
  split at event
  next => cases event
  next =>
    obtain ⟨downstream, known, rfl⟩ := Option.map_eq_some_iff.1 event
    have counted := (Option.filter_eq_some_iff.1 known).2
    simp only [Bool.and_eq_true] at counted
    intro unlimited
    have limited : (config.costScopeFor log.downstreamKeyId).dailyLimitCents = none := unlimited
    have bounded := counted.2
    rw [CostScope.isLimited, limited] at bounded
    cases bounded

theorem AdmissionBook.Sound.apply {settings : AdmissionSettings} {draws : UuidDraws}
    {book : AdmissionBook} {step : AdmissionStep} (sound : book.Sound settings.config step.time) :
    (book.apply settings draws step).Sound settings.config step.time := by
  obtain ⟨time, op⟩ := step
  cases op with
  | admitOne downstream model => exact sound.admitOne
  | rollback admitted => exact sound.rollback admitted
  | release admitted => exact sound.release admitted
  | record log => exact sound.record fun scopeId booked found => bookedCost_limited found

/-- The handle of a step that was admitted to the bucket `key`, or that has no bucket. -/
def UuidDraws.Handle (draws : UuidDraws) (step : Nat) (key : Option DownstreamLeaseKey)
    (handle : Option DownstreamAdmission) : Prop :=
  match key with
  | some key => handle = some (draws.admission step key)
  | none => ∀ admission ∈ handle,
    admission.reservation.eventId = none ∧ admission.lease.leaseId = none

structure HandedOut (draws : UuidDraws) (book : AdmissionBook)
    (issued : List (Option DownstreamAdmission)) : Prop where
  steps : issued.length = book.issued.length
  handles : ∀ step, draws.Handle step (book.bucketOf step) (handedOut issued step)

namespace HandedOut

variable {draws : UuidDraws} {book : AdmissionBook} {issued : List (Option DownstreamAdmission)}

theorem empty : HandedOut draws {} [] where
  steps := rfl
  handles step := by simp [AdmissionBook.bucketOf, handedOut, UuidDraws.Handle]

theorem issue (handed : HandedOut draws book issued) {key : Option DownstreamLeaseKey}
    {handle : Option DownstreamAdmission} (made : draws.Handle book.issued.length key handle) :
    HandedOut draws (book.issue key) (issued ++ [handle]) where
  steps := by simp [AdmissionBook.issue, handed.steps]
  handles step := by
    have before := handed.handles step
    rw [AdmissionBook.bucketOf, handedOut] at before ⊢
    rw [AdmissionBook.issue]
    rcases Nat.lt_trichotomy step book.issued.length with known | rfl | beyond
    · rw [List.getElem?_append_left known, List.getElem?_append_left (handed.steps ▸ known)]
      exact before
    · rw [List.getElem?_concat_length, ← handed.steps, List.getElem?_concat_length, handed.steps]
      exact made
    · have out := handed.steps
      rw [List.getElem?_eq_none (by simp; omega), List.getElem?_eq_none (by simp; omega)]
      intro admission known
      cases known

theorem of_issued {other : AdmissionBook} (handed : HandedOut draws book issued)
    (same : other.issued = book.issued) : HandedOut draws other issued where
  steps := by rw [same, handed.steps]
  handles step := by
    rw [AdmissionBook.bucketOf, same]
    exact handed.handles step

theorem handle_none (step : Nat) : draws.Handle step none none := by
  intro admission known
  cases known

end HandedOut

end ChatGateway
