import ChatGateway.Routing.AttemptLedger
import ChatGateway.Shared.Lists
import Mathlib.Data.List.Dedup

set_option autoImplicit false

/-!
# Views of the attempt ledger

A route is held once, as an attempt or as a skipped candidate, whatever calls the ledger has seen.
The views rest on this. The count of local gate rejections is kept beside the lists and only grows,
so it is right for as long as no candidate that the gate refused is taken back.
-/

namespace ChatGateway

namespace AttemptLedger

theorem any_routeId (entries : List AttemptFailure) (route : String) :
    entries.any (·.routeId = route) = decide (route ∈ entries.map (·.routeId)) := by
  rw [Bool.eq_iff_iff]
  simp

theorem map_routeId_replaceOrPush (entries : List AttemptFailure) (failure : AttemptFailure) :
    (replaceOrPush entries failure).map (·.routeId) =
      if failure.routeId ∈ entries.map (·.routeId) then entries.map (·.routeId)
      else entries.map (·.routeId) ++ [failure.routeId] := by
  unfold replaceOrPush
  simp only [any_routeId, decide_eq_true_eq]
  by_cases held : failure.routeId ∈ entries.map (·.routeId)
  · simp only [held, if_true, List.map_map]
    refine List.map_congr_left fun entry _ => ?_
    simp only [Function.comp_apply]
    split
    · next same => exact same.symm
    · rfl
  · simp only [held, if_false, List.map_append, List.map_cons, List.map_nil]

def attemptedRoutes (ledger : AttemptLedger) : List String :=
  ledger.failures.map (·.routeId)

def cooledRoutes (ledger : AttemptLedger) : List String :=
  ledger.cooledCandidates.map (·.routeId)

theorem attemptedRoutes_record (ledger : AttemptLedger) (failure : AttemptFailure) :
    (ledger.record failure).attemptedRoutes =
      if failure.routeId ∈ ledger.attemptedRoutes then ledger.attemptedRoutes
      else ledger.attemptedRoutes ++ [failure.routeId] :=
  map_routeId_replaceOrPush ledger.failures failure

theorem cooledRoutes_record (ledger : AttemptLedger) (failure : AttemptFailure) :
    (ledger.record failure).cooledRoutes =
      ledger.cooledRoutes.filter fun routeId => routeId ≠ failure.routeId := by
  simp only [cooledRoutes, record, List.filter_map, Function.comp_def]

theorem attemptedRoutes_recordCooled (ledger : AttemptLedger) (failure : AttemptFailure) :
    (ledger.recordCooled failure).attemptedRoutes = ledger.attemptedRoutes := by
  unfold recordCooled
  split
  · rfl
  split
  · split <;> rfl
  · rfl

theorem cooledRoutes_recordCooled (ledger : AttemptLedger) (failure : AttemptFailure) :
    (ledger.recordCooled failure).cooledRoutes =
      if failure.routeId ∈ ledger.attemptedRoutes ∨ failure.routeId ∈ ledger.cooledRoutes then
        ledger.cooledRoutes
      else ledger.cooledRoutes ++ [failure.routeId] := by
  have attempted : ledger.failures.any (·.routeId = failure.routeId) =
      decide (failure.routeId ∈ ledger.attemptedRoutes) :=
    any_routeId ledger.failures failure.routeId
  unfold recordCooled
  simp only [attempted, decide_eq_true_eq]
  by_cases held : failure.routeId ∈ ledger.attemptedRoutes
  · simp only [held, if_true, true_or]
  simp only [held, if_false, false_or]
  split
  · next existing found =>
    have cooled : failure.routeId ∈ ledger.cooledRoutes := by
      have sameRoute := List.find?_some found
      rw [decide_eq_true_eq] at sameRoute
      rw [← sameRoute]
      exact List.mem_map_of_mem (List.mem_of_find?_eq_some found)
    simp only [cooled, if_true]
    split
    · exact (map_routeId_replaceOrPush ledger.cooledCandidates failure).trans (if_pos cooled)
    · rfl
  · next absent =>
    have fresh : failure.routeId ∉ ledger.cooledRoutes := by
      intro cooled
      obtain ⟨candidate, isHeld, sameRoute⟩ := List.mem_map.1 cooled
      have differs := List.find?_eq_none.1 absent candidate isHeld
      exact differs (decide_eq_true sameRoute)
    rw [if_neg fresh]
    simp only [cooledRoutes, List.map_append, List.map_cons, List.map_nil]

theorem localGateRejectedCount_recordCooled (ledger : AttemptLedger) (failure : AttemptFailure) :
    (ledger.recordCooled failure).localGateRejectedCount = ledger.localGateRejectedCount := by
  unfold recordCooled
  split
  · rfl
  split
  · split <;> rfl
  · rfl

end AttemptLedger

namespace LedgerCall

def isAttempt : LedgerCall → Bool
  | record _ => true
  | recordCooled _ | recordCooledLocalGate _ => false

def isLocalGate : LedgerCall → Bool
  | recordCooledLocalGate _ => true
  | record _ | recordCooled _ => false

def routeId (call : LedgerCall) : String :=
  call.failure.routeId

def attempted (calls : List LedgerCall) : List String :=
  (calls.filter isAttempt).map routeId

def onlyCooled (calls : List LedgerCall) : List String :=
  ((calls.map routeId).filter fun route => route ∉ attempted calls).dedup

structure Kept (calls : List LedgerCall) (ledger : AttemptLedger) : Prop where
  attemptedOnce : ledger.attemptedRoutes.Nodup
  cooledOnce : ledger.cooledRoutes.Nodup
  mem_attempted : ∀ route, route ∈ ledger.attemptedRoutes ↔ route ∈ attempted calls
  mem_cooled : ∀ route, route ∈ ledger.cooledRoutes ↔ route ∈ onlyCooled calls
  gateCount : ledger.localGateRejectedCount = calls.countP isLocalGate

theorem mem_onlyCooled {calls : List LedgerCall} {route : String} :
    route ∈ onlyCooled calls ↔ route ∈ calls.map routeId ∧ route ∉ attempted calls := by
  simp only [onlyCooled, List.mem_dedup, List.mem_filter, decide_eq_true_eq]

theorem kept_record {calls : List LedgerCall} {ledger : AttemptLedger} (kept : Kept calls ledger)
    (failure : AttemptFailure) :
    Kept (calls ++ [record failure]) (ledger.record failure) := by
  have isAttempted : attempted (calls ++ [record failure]) =
      attempted calls ++ [failure.routeId] := by
    simp only [attempted, List.filter_append, List.map_append]
    rfl
  constructor
  case attemptedOnce =>
    rw [AttemptLedger.attemptedRoutes_record]
    split
    · exact kept.attemptedOnce
    · next fresh => exact nodup_append_singleton kept.attemptedOnce fresh
  case cooledOnce =>
    rw [AttemptLedger.cooledRoutes_record]
    exact kept.cooledOnce.filter _
  case mem_attempted =>
    intro route
    rw [AttemptLedger.attemptedRoutes_record, isAttempted, List.mem_append, List.mem_singleton,
      ← kept.mem_attempted]
    split
    · next held =>
      constructor
      · exact Or.inl
      · rintro (attempted | rfl)
        · exact attempted
        · exact held
    · rw [List.mem_append, List.mem_singleton]
  case mem_cooled =>
    intro route
    rw [AttemptLedger.cooledRoutes_record, List.mem_filter, kept.mem_cooled, mem_onlyCooled,
      mem_onlyCooled, isAttempted]
    simp only [List.map_append, List.map_cons, List.map_nil, List.mem_append, List.mem_singleton,
      decide_eq_true_eq, routeId, LedgerCall.failure]
    tauto
  case gateCount =>
    simp only [List.countP_append, ← kept.gateCount]
    simp [isLocalGate, AttemptLedger.record]

theorem kept_cooled {calls : List LedgerCall} {ledger : AttemptLedger} (kept : Kept calls ledger)
    {call : LedgerCall} (isCooled : call.isAttempt = false) :
    Kept (calls ++ [call]) (apply ledger call) := by
  have isAttempted : attempted (calls ++ [call]) = attempted calls := by
    simp [attempted, isCooled]
  have attemptedRoutes : (apply ledger call).attemptedRoutes = ledger.attemptedRoutes := by
    cases call with
    | record failure => cases isCooled
    | recordCooled failure => exact ledger.attemptedRoutes_recordCooled failure
    | recordCooledLocalGate failure => exact ledger.attemptedRoutes_recordCooled failure
  have cooledRoutes : (apply ledger call).cooledRoutes =
      if call.routeId ∈ ledger.attemptedRoutes ∨ call.routeId ∈ ledger.cooledRoutes then
        ledger.cooledRoutes
      else ledger.cooledRoutes ++ [call.routeId] := by
    cases call with
    | record failure => cases isCooled
    | recordCooled failure => exact ledger.cooledRoutes_recordCooled failure
    | recordCooledLocalGate failure => exact ledger.cooledRoutes_recordCooled failure
  constructor
  case attemptedOnce =>
    rw [attemptedRoutes]
    exact kept.attemptedOnce
  case cooledOnce =>
    rw [cooledRoutes]
    split
    · exact kept.cooledOnce
    · next fresh =>
      exact nodup_append_singleton kept.cooledOnce fun held => fresh (Or.inr held)
  case mem_attempted =>
    intro route
    rw [attemptedRoutes, isAttempted, kept.mem_attempted]
  case mem_cooled =>
    intro route
    have before := kept.mem_cooled route
    rw [mem_onlyCooled] at before
    rw [cooledRoutes, mem_onlyCooled, isAttempted]
    simp only [List.map_append, List.map_cons, List.map_nil, List.mem_append, List.mem_singleton]
    split
    · next held =>
      rw [before]
      constructor
      · rintro ⟨named, untried⟩
        exact ⟨Or.inl named, untried⟩
      · rintro ⟨named | rfl, untried⟩
        · exact ⟨named, untried⟩
        -- the route is held, and not among the attempts
        · rcases held with held | held
          · exact absurd ((kept.mem_attempted _).1 held) untried
          · exact mem_onlyCooled.1 ((kept.mem_cooled _).1 held)
    · next fresh =>
      rw [List.mem_append, List.mem_singleton, before]
      constructor
      · rintro (⟨named, untried⟩ | rfl)
        · exact ⟨Or.inl named, untried⟩
        · exact ⟨Or.inr rfl, fun tried => fresh (Or.inl ((kept.mem_attempted _).2 tried))⟩
      · rintro ⟨named | rfl, untried⟩
        · exact Or.inl ⟨named, untried⟩
        · exact Or.inr rfl
  case gateCount =>
    rw [List.countP_append, ← kept.gateCount]
    cases call with
    | record failure => cases isCooled
    | recordCooled failure =>
      simp [isLocalGate, apply, AttemptLedger.localGateRejectedCount_recordCooled]
    | recordCooledLocalGate failure =>
      simp [isLocalGate, apply, AttemptLedger.recordCooledLocalGate,
        AttemptLedger.localGateRejectedCount_recordCooled]

theorem run_append (calls : List LedgerCall) (call : LedgerCall) :
    run (calls ++ [call]) = apply (run calls) call := by
  simp only [run, List.foldl_append, List.foldl_cons, List.foldl_nil]

theorem kept_run (calls : List LedgerCall) : Kept calls (run calls) := by
  induction calls using List.reverseRecOn with
  | nil =>
    constructor <;> simp [run, AttemptLedger.attemptedRoutes, AttemptLedger.cooledRoutes,
      attempted, onlyCooled]
  | append_singleton calls call kept =>
    rw [run_append]
    cases call with
    | record failure => exact kept_record kept failure
    | recordCooled failure => exact kept_cooled kept rfl
    | recordCooledLocalGate failure => exact kept_cooled kept rfl

theorem routes_once (calls : List LedgerCall) :
    ((run calls).candidates.map (·.routeId)).Nodup := by
  have kept := kept_run calls
  have disjoint : (run calls).attemptedRoutes.Disjoint (run calls).cooledRoutes := by
    intro route attempted cooled
    exact (mem_onlyCooled.1 ((kept.mem_cooled route).1 cooled)).2
      ((kept.mem_attempted route).1 attempted)
  rw [AttemptLedger.candidates, List.map_append]
  exact kept.attemptedOnce.append kept.cooledOnce disjoint

theorem cooledCandidateCount_run (calls : List LedgerCall) :
    (run calls).cooledCandidateCount = (onlyCooled calls).length := by
  have kept := kept_run calls
  have counted : (run calls).cooledCandidateCount = (run calls).cooledRoutes.length := by
    simp only [AttemptLedger.cooledCandidateCount, AttemptLedger.cooledRoutes, List.length_map]
  rw [counted]
  exact length_eq_of_nodup kept.cooledOnce (List.nodup_dedup _) kept.mem_cooled

end LedgerCall

namespace AttemptLedger

variable {ledger : AttemptLedger}

theorem distinctRouteCount_eq (once : (ledger.candidates.map (·.routeId)).Nodup) :
    ledger.distinctRouteCount = ledger.candidates.length := by
  rw [distinctRouteCount, once.dedup, List.length_map]

theorem sum_class_lengths_cons (classes : List RouteFailureClass) (entry : AttemptFailure)
    (entries : List AttemptFailure) :
    (classes.map fun failureClass => ((entry :: entries).filter fun entry =>
      entry.failureClass = failureClass).length).sum =
      classes.count entry.failureClass + (classes.map fun failureClass =>
        (entries.filter fun entry => entry.failureClass = failureClass).length).sum := by
  induction classes with
  | nil => rfl
  | cons failureClass classes counted =>
    rw [List.map_cons, List.sum_cons, counted, List.map_cons, List.sum_cons, List.filter_cons]
    by_cases same : entry.failureClass = failureClass
    · simp [same]
      omega
    · rw [List.count_cons_of_ne fun isSame => same isSame.symm]
      simp [same]
      omega

theorem count_all (failureClass : RouteFailureClass) :
    RouteFailureClass.all.count failureClass = 1 := by
  cases failureClass <;> decide

theorem sum_class_lengths (entries : List AttemptFailure) :
    (RouteFailureClass.all.map fun failureClass =>
      (entries.filter fun entry => entry.failureClass = failureClass).length).sum =
      entries.length := by
  induction entries with
  | nil => decide
  | cons entry entries counted =>
    rw [sum_class_lengths_cons, count_all, counted, List.length_cons, Nat.add_comm]

theorem sum_filter_ne_zero {A : Type} (count : A → Nat) (items : List A) :
    ((items.filter fun item => count item ≠ 0).map count).sum = (items.map count).sum := by
  induction items with
  | nil => rfl
  | cons item items same =>
    rw [List.filter_cons, List.map_cons, List.sum_cons, ← same]
    by_cases empty : count item = 0
    · simp [empty]
    · simp [empty]

theorem sum_classSummaries (ledger : AttemptLedger) :
    (ledger.classSummaries.map (·.routes)).sum = ledger.candidates.length := by
  have sorted := (List.perm_insertionSort
    (fun a b : FailureClassSummary =>
      toLex (OrderDual.toDual a.routes, a.failureClass.asStr) ≤
        toLex (OrderDual.toDual b.routes, b.failureClass.asStr))
    ((RouteFailureClass.all.filter fun failureClass => ledger.classCount failureClass ≠ 0).map
      ledger.classSummary)).map (·.routes)
  calc (ledger.classSummaries.map (·.routes)).sum
      = (((RouteFailureClass.all.filter fun failureClass =>
          ledger.classCount failureClass ≠ 0).map ledger.classSummary).map (·.routes)).sum :=
        sorted.sum_nat
    _ = ((RouteFailureClass.all.filter fun failureClass =>
          ledger.classCount failureClass ≠ 0).map ledger.classCount).sum := by
        rw [List.map_map]
        rfl
    _ = (RouteFailureClass.all.map ledger.classCount).sum := sum_filter_ne_zero _ _
    _ = ledger.candidates.length := sum_class_lengths ledger.candidates

/-! ### The terminal failure -/

theorem terminalFailure_of_perm {left right : AttemptLedger}
    (same : left.candidates.Perm right.candidates) :
    left.terminalFailure = right.terminalFailure := by
  have empty : left.candidates = [] ↔ right.candidates = [] := by
    constructor
    · intro isEmpty
      exact (isEmpty ▸ same).symm.eq_nil
    · intro isEmpty
      exact (isEmpty ▸ same).eq_nil
  have earliest : (left.temporaryCandidates.filterMap (·.retryAfter)).min? =
      (right.temporaryCandidates.filterMap (·.retryAfter)).min? :=
    min?_eq_of_perm ((same.filter _).filterMap _)
  simp only [terminalFailure, allOfClass, empty, same.any_eq, same.all_eq, earliest]
  rfl

end AttemptLedger

def TerminalFailure.covers : TerminalFailure → RouteFailureClass → Bool
  | .temporary _, failureClass => failureClass.isTemporary
  | .credentials, failureClass => failureClass = .credentials
  | .modelUnsupported, failureClass => failureClass = .modelUnsupported
  | .capabilityUnsupported, failureClass => failureClass = .featureUnsupported
  | .protocolUnsupported, failureClass => failureClass = .protocolUnsupported
  | .mixedRoutesExhausted, failureClass => !failureClass.isTemporary

namespace AttemptLedger

variable {ledger : AttemptLedger}

structure Observed (ledger : AttemptLedger) (terminal : TerminalFailure)
    (entry : AttemptFailure) : Prop where
  isTerminal : ledger.terminalFailure = some terminal
  isObserved : ledger.terminalObservationFor terminal = some entry
  isCandidate : entry ∈ ledger.candidates
  covered : terminal.covers entry.failureClass
  earliest : ∀ retryAfter, terminal = .temporary retryAfter →
    (∃ candidate ∈ ledger.temporaryCandidates, candidate.retryAfter ≠ none) →
    entry.retryAfter = some retryAfter ∧
      ∀ candidate ∈ ledger.temporaryCandidates, ∀ other, candidate.retryAfter = some other →
        retryAfter ≤ other

theorem exists_argmin {A B : Type} [LinearOrder B] (key : A → B) {items : List A}
    (nonempty : items ≠ []) : ∃ item, items.argmin key = some item := by
  cases found : items.argmin key with
  | none => exact absurd (List.argmin_eq_none.1 found) nonempty
  | some item => exact ⟨item, rfl⟩

theorem observed_temporary (temporary : ledger.candidates.any (·.failureClass.isTemporary)) :
    ∃ terminal entry, Observed ledger terminal entry := by
  obtain ⟨candidate, isCandidate, isTemporary⟩ := List.any_eq_true.1 temporary
  have held : candidate ∈ ledger.temporaryCandidates :=
    List.mem_filter.2 ⟨isCandidate, isTemporary⟩
  have nonempty : ledger.candidates ≠ [] := List.ne_nil_of_mem isCandidate
  have isTerminal : ledger.terminalFailure = some (.temporary
      (((ledger.temporaryCandidates.filterMap (·.retryAfter)).min?).getD
        (Duration.fromSecs 1))) := by
    simp only [terminalFailure, nonempty, temporary, if_true, if_false]
  generalize chosen : ((ledger.temporaryCandidates.filterMap (·.retryAfter)).min?).getD
    (Duration.fromSecs 1) = retryAfter at isTerminal
  obtain ⟨entry, isObserved⟩ := exists_argmin
    (fun failure : AttemptFailure =>
      toLex (if failure.retryAfter ≠ some retryAfter then 1 else 0,
        toLex (failure.retryAfter.getD Duration.maximum, failure.routeId)))
    (List.ne_nil_of_mem held)
  have isHeld := List.mem_filter.1 (List.argmin_mem isObserved)
  refine ⟨_, entry, isTerminal, isObserved, isHeld.1, isHeld.2, ?_⟩
  rintro _ ⟨⟩ ⟨timed, timedHeld, isTimed⟩
  cases least : (ledger.temporaryCandidates.filterMap (·.retryAfter)).min? with
  | none =>
    have noTimes := List.min?_eq_none_iff.1 least
    obtain ⟨time, hasTime⟩ := Option.ne_none_iff_exists'.1 isTimed
    have listed : time ∈ ledger.temporaryCandidates.filterMap (·.retryAfter) :=
      List.mem_filterMap.2 ⟨timed, timedHeld, hasTime⟩
    rw [noTimes] at listed
    cases listed
  | some least' =>
    rw [least, Option.getD_some] at chosen
    subst chosen
    obtain ⟨isListed, isLeast⟩ := List.min?_eq_some_iff.1 least
    obtain ⟨first, firstHeld, firstTime⟩ := List.mem_filterMap.1 isListed
    constructor
    · -- the candidate that has the least time is preferred to all that have another
      have preferred := List.le_of_mem_argmin firstHeld isObserved
      by_contra differs
      simp [firstTime, differs, Prod.Lex.le_iff] at preferred
    · intro other otherHeld time hasTime
      exact isLeast time (List.mem_filterMap.2 ⟨other, otherHeld, hasTime⟩)

theorem observed_class {failureClass : RouteFailureClass} (terminal : TerminalFailure)
    (nonempty : ledger.candidates ≠ []) (all : ledger.allOfClass failureClass)
    (isTerminal : ledger.terminalFailure = some terminal)
    (observation : ledger.terminalObservationFor terminal =
      ledger.observationForClass failureClass)
    (covers : terminal.covers failureClass) (isPermanent : ∀ retryAfter, terminal ≠ .temporary retryAfter) :
    ∃ terminal entry, Observed ledger terminal entry := by
  have ofClass : ledger.ofClass failureClass = ledger.candidates :=
    List.filter_eq_self.2 (List.all_eq_true.1 all)
  obtain ⟨entry, isObserved⟩ := exists_argmin
    (fun failure : AttemptFailure =>
      toLex (failure.retryAfter.getD Duration.maximum, failure.routeId))
    (ofClass.symm ▸ nonempty)
  have isHeld := List.mem_filter.1 (List.argmin_mem isObserved)
  refine ⟨terminal, entry, isTerminal, observation.trans isObserved, isHeld.1, ?_, ?_⟩
  · rw [of_decide_eq_true isHeld.2]
    exact covers
  · intro retryAfter same
    exact absurd same (isPermanent retryAfter)

theorem observed_mixed (nonempty : ledger.candidates ≠ [])
    (permanent : ¬ ledger.candidates.any (·.failureClass.isTemporary))
    (isTerminal : ledger.terminalFailure = some .mixedRoutesExhausted) :
    ∃ terminal entry, Observed ledger terminal entry := by
  have found : ∃ entry ∈ ledger.candidates, ledger.terminalObservation = some entry := by
    unfold terminalObservation
    cases last : ledger.failures.getLast? with
    | some entry =>
      exact ⟨entry, List.mem_append_left _ (List.mem_of_getLast? last), rfl⟩
    | none =>
      have noFailures := List.getLast?_eq_none_iff.1 last
      have cooled : ledger.cooledCandidates ≠ [] := by
        intro noCooled
        exact nonempty (by rw [candidates, noFailures, noCooled, List.append_nil])
      obtain ⟨entry, isFound⟩ := exists_argmin
        (fun failure : AttemptFailure => failure.retryAfter.getD Duration.maximum) cooled
      exact ⟨entry, List.mem_append_right _ (List.argmin_mem isFound), isFound⟩
  obtain ⟨entry, isCandidate, isObserved⟩ := found
  refine ⟨_, entry, isTerminal, isObserved, isCandidate, ?_, ?_⟩
  · have isPermanent : ¬ entry.failureClass.isTemporary := by
      intro isTemporary
      exact permanent (List.any_eq_true.2 ⟨entry, isCandidate, isTemporary⟩)
    simpa [TerminalFailure.covers] using isPermanent
  · rintro _ ⟨⟩

theorem exists_observed (nonempty : ledger.candidates ≠ []) :
    ∃ terminal entry, Observed ledger terminal entry := by
  by_cases temporary : ledger.candidates.any (·.failureClass.isTemporary)
  · exact observed_temporary temporary
  by_cases credentials : ledger.allOfClass .credentials
  · refine observed_class .credentials nonempty credentials ?_ rfl rfl nofun
    simp only [terminalFailure, nonempty, temporary, credentials, if_true, if_false]
    rfl
  by_cases model : ledger.allOfClass .modelUnsupported
  · refine observed_class .modelUnsupported nonempty model ?_ rfl rfl nofun
    simp only [terminalFailure, nonempty, temporary, credentials, model, if_true, if_false]
    rfl
  by_cases feature : ledger.allOfClass .featureUnsupported
  · refine observed_class .capabilityUnsupported nonempty feature ?_ rfl rfl nofun
    simp only [terminalFailure, nonempty, temporary, credentials, model, feature, if_true,
      if_false]
    rfl
  by_cases protocol : ledger.allOfClass .protocolUnsupported
  · refine observed_class .protocolUnsupported nonempty protocol ?_ rfl rfl nofun
    simp only [terminalFailure, nonempty, temporary, credentials, model, feature, protocol, if_true,
      if_false]
    rfl
  · refine observed_mixed nonempty temporary ?_
    simp only [terminalFailure, nonempty, temporary, credentials, model, feature, protocol,
      if_false]
    rfl

end AttemptLedger

namespace AttemptLedger

variable {ledger : AttemptLedger} (failure : AttemptFailure)

theorem record_of_fresh (untried : failure.routeId ∉ ledger.attemptedRoutes)
    (uncooled : failure.routeId ∉ ledger.cooledRoutes) :
    ledger.record failure = { ledger with failures := ledger.failures ++ [failure] } := by
  have kept : (ledger.cooledCandidates.filter fun candidate =>
      candidate.routeId ≠ failure.routeId) = ledger.cooledCandidates := by
    refine List.filter_eq_self.2 fun candidate held => decide_eq_true ?_
    intro same
    exact uncooled (same ▸ List.mem_map_of_mem held)
  have pushed : replaceOrPush ledger.failures failure = ledger.failures ++ [failure] := by
    rw [replaceOrPush, any_routeId]
    exact if_neg fun held => untried (of_decide_eq_true held)
  simp only [record, kept, pushed]

theorem recordCooled_of_fresh (untried : failure.routeId ∉ ledger.attemptedRoutes)
    (uncooled : failure.routeId ∉ ledger.cooledRoutes) :
    ledger.recordCooled failure =
      { ledger with cooledCandidates := ledger.cooledCandidates ++ [failure] } := by
  have absent : ledger.cooledCandidates.find? (fun candidate =>
      candidate.routeId = failure.routeId) = none := by
    refine List.find?_eq_none.2 fun candidate held same => ?_
    exact uncooled (of_decide_eq_true same ▸ List.mem_map_of_mem held)
  rw [recordCooled, any_routeId, absent]
  exact if_neg fun held => untried (of_decide_eq_true held)

end AttemptLedger

namespace LedgerCall

theorem candidates_run {calls : List LedgerCall} (distinct : (calls.map routeId).Nodup) :
    (run calls).candidates.Perm (calls.map failure) := by
  induction calls using List.reverseRecOn with
  | nil => exact List.Perm.nil
  | append_singleton calls call same =>
    rw [List.map_append, List.nodup_append] at distinct
    obtain ⟨distinct, -, apart⟩ := distinct
    have fresh : call.routeId ∉ calls.map routeId := by
      intro named
      exact apart _ named _ (List.mem_singleton_self _) rfl
    have kept := kept_run calls
    have untried : call.failure.routeId ∉ (run calls).attemptedRoutes := by
      intro held
      have attempted := (kept.mem_attempted _).1 held
      exact fresh ((List.filter_sublist.map _).subset attempted)
    have uncooled : call.failure.routeId ∉ (run calls).cooledRoutes := by
      intro held
      exact fresh (mem_onlyCooled.1 ((kept.mem_cooled _).1 held)).1
    have added : (run (calls ++ [call])).candidates.Perm
        ((run calls).candidates ++ [call.failure]) := by
      rw [run_append]
      cases call with
      | record failure =>
        rw [apply, AttemptLedger.record_of_fresh failure untried uncooled]
        simp only [AttemptLedger.candidates, List.append_assoc, LedgerCall.failure]
        exact List.Perm.append_left _ List.perm_append_comm
      | recordCooled failure =>
        rw [apply, AttemptLedger.recordCooled_of_fresh failure untried uncooled]
        simp only [AttemptLedger.candidates, List.append_assoc, LedgerCall.failure]
        exact List.Perm.refl _
      | recordCooledLocalGate failure =>
        rw [apply, AttemptLedger.recordCooledLocalGate,
          AttemptLedger.recordCooled_of_fresh failure untried uncooled]
        simp only [AttemptLedger.candidates, List.append_assoc, LedgerCall.failure]
        exact List.Perm.refl _
    rw [List.map_append]
    exact added.trans ((same distinct).append_right _)

theorem terminalFailure_perm {calls other : List LedgerCall}
    (distinct : (calls.map routeId).Nodup) (reordered : other.Perm calls) :
    (run other).terminalFailure = (run calls).terminalFailure := by
  have otherDistinct : (other.map routeId).Nodup :=
    (reordered.map routeId).nodup_iff.2 distinct
  refine AttemptLedger.terminalFailure_of_perm ?_
  calc (run other).candidates
      |>.Perm (other.map failure) := candidates_run otherDistinct
    _ |>.Perm (calls.map failure) := reordered.map failure
    _ |>.Perm (run calls).candidates := (candidates_run distinct).symm

structure ViewsSound (calls : List LedgerCall) : Prop where
  routesOnce : ((run calls).candidates.map (·.routeId)).Nodup
  summariesTotal :
    ((run calls).classSummaries.map (·.routes)).sum = (run calls).distinctRouteCount
  gateBounded : (run calls).localGateRejectedCount ≤ (run calls).cooledCandidateCount
  unordered : (calls.map routeId).Nodup → ∀ other : List LedgerCall, other.Perm calls →
    (run other).terminalFailure = (run calls).terminalFailure
  observed : (run calls).candidates ≠ [] → ∃ terminal entry,
    AttemptLedger.Observed (run calls) terminal entry

/-- The count of local gate rejections is never lowered, so it may say no more than there are
routes that only skipping calls name. -/
theorem views_sound_iff (calls : List LedgerCall) :
    ViewsSound calls ↔ calls.countP isLocalGate ≤ (onlyCooled calls).length := by
  have bounded : (run calls).localGateRejectedCount ≤ (run calls).cooledCandidateCount ↔
      calls.countP isLocalGate ≤ (onlyCooled calls).length := by
    rw [(kept_run calls).gateCount, cooledCandidateCount_run]
  constructor
  · intro sound
    exact bounded.1 sound.gateBounded
  · intro fewGates
    have once := routes_once calls
    constructor
    case routesOnce => exact once
    case summariesTotal =>
      rw [AttemptLedger.sum_classSummaries, AttemptLedger.distinctRouteCount_eq once]
    case gateBounded => exact bounded.2 fewGates
    case unordered => exact fun distinct other reordered => terminalFailure_perm distinct reordered
    case observed => exact AttemptLedger.exists_observed

/-- A candidate that the gate refused is attempted in the next round. -/
theorem gate_count_outlives_attempt :
    ¬ ViewsSound [
      .recordCooledLocalGate { routeId := "r1", failureClass := .concurrencySaturated },
      .record { routeId := "r1", failureClass := .transientServer, upstreamStatus := some 502 }] := by
  intro sound
  exact absurd sound.gateBounded (by decide)

end LedgerCall

end ChatGateway
