import ChatGateway.Local.DailyBudget

set_option autoImplicit false

/-!
# The ledger after a restart

The live windows grow with every request that ends, and a restart builds them again from the usage
logs. The two agree exactly when no counted log repeats an id and every billed log has its cost.
-/

namespace ChatGateway

structure SettledRequest where
  log : UsageLog
  freshId : String
  now : Nat
  eventId : String

namespace SettledRequest

def stored (request : SettledRequest) : UsageLog :=
  request.log.stamped request.freshId request.now

def event (request : SettledRequest) : DownstreamRequestEvent :=
  ⟨request.eventId, request.stored.createdAt⟩

def reservation (request : SettledRequest) : DownstreamRequestReservation :=
  ⟨request.stored.downstreamKeyId, some request.eventId⟩

end SettledRequest

namespace DownstreamWindows

def settle (windows : DownstreamWindows) (config : LedgerConfig) (request : SettledRequest) :
    DownstreamWindows :=
  let key := request.stored.downstreamKeyId
  let admitted := windows.setRequests key (windows.requestWindow key ++ [request.event])
  let kept :=
    if request.stored.isRequestQuotaCounted then admitted else admitted.rollback request.reservation
  kept.recordUsageEvent config request.stored

def settleAll (config : LedgerConfig) (requests : List SettledRequest) : DownstreamWindows :=
  requests.foldl (fun windows request => windows.settle config request) {}

end DownstreamWindows

def rebuiltWindows (config : LedgerConfig) (logs : List UsageLog) : DownstreamWindows where
  requests := buildDownstreamRequestWindows logs
  tokens := buildDownstreamTokenWindows config logs

def requestsWithin (start stop : Nat) (window : List DownstreamRequestEvent) : Nat :=
  (window.filter fun event => start ≤ event.createdAt ∧ event.createdAt ≤ stop).length

def LimitedScope (config : LedgerConfig) (scopeId : String) : Prop :=
  ∃ limit, config.limits.lookup scopeId = some limit ∧ 0 < limit

def SameLedger (config : LedgerConfig) (live rebuilt : DownstreamWindows) : Prop :=
  (∀ scopeId, LimitedScope config scopeId →
    (live.tokenWindow scopeId).Perm (rebuilt.tokenWindow scopeId)) ∧
  ∀ downstreamId start stop, requestsWithin start stop (live.requestWindow downstreamId) =
    requestsWithin start stop (rebuilt.requestWindow downstreamId)

section Grouped

variable {A B : Type} (keyOf : A → String) (valueOf : A → B)

theorem lookup_grouped (items : List A) (table : Table String (List B)) (key : String) :
    (AList.lookup key (items.foldl (fun table item =>
        AList.insert (keyOf item) ((AList.lookup (keyOf item) table).getD [] ++ [valueOf item]) table)
        table)).getD [] =
      (AList.lookup key table).getD [] ++ (items.filter fun item => keyOf item = key).map valueOf := by
  induction items generalizing table with
  | nil => simp
  | cons item rest ih =>
    rw [List.foldl_cons, ih, Table.lookup_insert_eq]
    by_cases own : keyOf item = key
    · subst own
      simp
    · simp [own, Ne.symm own]

end Grouped

def bookedOn (config : LedgerConfig) (scopeId : String) (log : UsageLog) :
    Option DownstreamTokenEvent :=
  ((usageEvent config log).filter fun entry => entry.1 = scopeId).map Prod.snd

def replayedOn (config : LedgerConfig) (scopeId : String) (log : UsageLog) :
    Option DownstreamTokenEvent :=
  if log.isRequestQuotaCounted && costBilled config log &&
      (config.costScopeFor log.downstreamKeyId).scopeId = scopeId then
    some ⟨log.createdAt, log.totalCostCents.getD 0⟩
  else none

theorem rebuilt_tokenWindow (config : LedgerConfig) (logs : List UsageLog) (scopeId : String) :
    (rebuiltWindows config logs).tokenWindow scopeId =
      (normalizedUsageLogs logs).filterMap (replayedOn config scopeId) := by
  rw [DownstreamWindows.tokenWindow, rebuiltWindows, buildDownstreamTokenWindows]
  refine (lookup_grouped (fun log : UsageLog => (config.costScopeFor log.downstreamKeyId).scopeId)
    (fun log : UsageLog => (⟨log.createdAt, log.totalCostCents.getD 0⟩ : DownstreamTokenEvent)) _ ∅
    scopeId).trans ?_
  rw [AList.lookup_empty, Option.getD_none, List.nil_append, List.filter_filter]
  induction normalizedUsageLogs logs with
  | nil => rfl
  | cons log rest ih =>
    rw [List.filter_cons, List.filterMap_cons, replayedOn]
    by_cases counted : log.isRequestQuotaCounted = true <;>
      by_cases billed : costBilled config log = true <;>
      by_cases own : (config.costScopeFor log.downstreamKeyId).scopeId = scopeId <;>
      simp [counted, billed, own] <;> simpa using ih

theorem rebuilt_requestWindow (config : LedgerConfig) (logs : List UsageLog) (downstreamId : String) :
    (rebuiltWindows config logs).requestWindow downstreamId =
      (((normalizedUsageLogs logs).filter UsageLog.isRequestQuotaCounted).filter
        fun log => log.downstreamKeyId = downstreamId).map
          fun log => ⟨"history:" ++ log.id, log.createdAt⟩ := by
  rw [DownstreamWindows.requestWindow, rebuiltWindows, buildDownstreamRequestWindows]
  refine (lookup_grouped UsageLog.downstreamKeyId
    (fun log : UsageLog => (⟨"history:" ++ log.id, log.createdAt⟩ : DownstreamRequestEvent)) _ ∅
    downstreamId).trans ?_
  rw [AList.lookup_empty, Option.getD_none, List.nil_append]

namespace DownstreamWindows

variable {config : LedgerConfig}

theorem rollback_tokens (windows : DownstreamWindows) (reservation : DownstreamRequestReservation) :
    (windows.rollback reservation).tokens = windows.tokens := by
  rw [rollback]
  split
  next =>
    dsimp only
    split <;> rfl
  next => rfl

theorem rollback_requestWindow (windows : DownstreamWindows) (key eventId other : String) :
    (windows.rollback ⟨key, some eventId⟩).requestWindow other =
      if other = key then (windows.requestWindow key).filter fun event => event.eventId ≠ eventId
      else windows.requestWindow other := by
  rw [rollback]
  cases found : windows.requests.lookup key with
  | none =>
    by_cases own : other = key
    · subst own
      simp [requestWindow, found]
    · simp [own]
  | some window =>
    have held : windows.requestWindow key = window := by simp [requestWindow, found]
    simp only [held]
    by_cases empty : window.filter (fun event => event.eventId ≠ eventId) = []
    · rw [if_pos empty]
      simp only [requestWindow, Table.lookup_erase_eq]
      split
      next => rw [empty, Option.getD_none]
      next => rfl
    · rw [if_neg empty]
      simp only [requestWindow, setRequests, Table.lookup_insert_eq]
      split <;> rfl

theorem recordUsageEvent_requests (windows : DownstreamWindows) (log : UsageLog) :
    (windows.recordUsageEvent config log).requests = windows.requests := by
  rw [recordUsageEvent]
  split <;> rfl

theorem settle_tokenWindow (windows : DownstreamWindows) (request : SettledRequest)
    (scopeId : String) :
    (windows.settle config request).tokenWindow scopeId =
      windows.tokenWindow scopeId ++ (bookedOn config scopeId request.stored).toList := by
  rw [settle, BudgetState.tokenWindow_record, bookedOn]
  congr 1
  split
  next => rfl
  next => rw [tokenWindow, rollback_tokens]; rfl

theorem settle_requestWindow (windows : DownstreamWindows) (request : SettledRequest)
    (downstreamId : String)
    (fresh : ∀ event ∈ windows.requestWindow request.stored.downstreamKeyId,
      event.eventId ≠ request.eventId) :
    (windows.settle config request).requestWindow downstreamId =
      windows.requestWindow downstreamId ++
        if request.stored.isRequestQuotaCounted ∧ request.stored.downstreamKeyId = downstreamId then
          [request.event]
        else [] := by
  rw [settle, requestWindow, recordUsageEvent_requests]
  by_cases counted : request.stored.isRequestQuotaCounted = true
  · simp only [counted, if_true, setRequests, Table.lookup_insert_eq]
    by_cases own : downstreamId = request.stored.downstreamKeyId
    · subst own
      simp
    · simp [own, Ne.symm own, requestWindow]
  · simp only [counted, Bool.false_eq_true, if_false, false_and, List.append_nil]
    have rolled := rollback_requestWindow (windows.setRequests request.stored.downstreamKeyId
      (windows.requestWindow request.stored.downstreamKeyId ++ [request.event]))
      request.stored.downstreamKeyId request.eventId downstreamId
    refine rolled.trans ?_
    by_cases own : downstreamId = request.stored.downstreamKeyId
    · subst own
      have kept : (windows.requestWindow request.stored.downstreamKeyId).filter
          (fun event => event.eventId ≠ request.eventId) =
            windows.requestWindow request.stored.downstreamKeyId :=
        List.filter_eq_self.2 fun event known => decide_eq_true (fresh event known)
      rw [if_pos rfl, requestWindow, setRequests, Table.lookup_insert_eq, if_pos rfl,
        Option.getD_some, List.filter_append, kept]
      simp [SettledRequest.event]
    · rw [if_neg own, requestWindow, setRequests, Table.lookup_insert_eq, if_neg own, requestWindow]

theorem settleAll_concat (requests : List SettledRequest) (last : SettledRequest) :
    settleAll config (requests ++ [last]) = (settleAll config requests).settle config last := by
  simp [settleAll]

theorem settleAll_tokenWindow (requests : List SettledRequest) (scopeId : String) :
    (settleAll config requests).tokenWindow scopeId =
      (requests.map SettledRequest.stored).filterMap (bookedOn config scopeId) := by
  induction requests using List.reverseRecOn with
  | nil => rfl
  | append_singleton before last ih =>
    rw [settleAll_concat, settle_tokenWindow, ih, List.map_append, List.filterMap_append]
    cases booked : bookedOn config scopeId last.stored <;> simp [booked]

theorem settleAll_requestWindow {requests : List SettledRequest}
    (distinct : (requests.map SettledRequest.eventId).Nodup) (downstreamId : String) :
    (settleAll config requests).requestWindow downstreamId =
      (requests.filter fun request => request.stored.isRequestQuotaCounted ∧
        request.stored.downstreamKeyId = downstreamId).map SettledRequest.event := by
  induction requests using List.reverseRecOn generalizing downstreamId with
  | nil => rfl
  | append_singleton before last ih =>
    rw [List.map_append, List.nodup_append] at distinct
    obtain ⟨earlier, -, apart⟩ := distinct
    rw [settleAll_concat, settle_requestWindow, ih earlier, List.filter_append, List.map_append]
    · congr 1
      by_cases counted : last.stored.isRequestQuotaCounted = true ∧
          last.stored.downstreamKeyId = downstreamId <;> simp [counted]
    · intro event known
      rw [ih earlier] at known
      obtain ⟨request, kept, rfl⟩ := List.mem_map.1 known
      exact apart request.eventId (List.mem_map_of_mem (List.mem_filter.1 kept).1) last.eventId
        (by simp)

end DownstreamWindows

theorem dedupLogs_sublist (logs : List UsageLog) : (dedupLogs logs).Sublist logs := by
  induction logs with
  | nil => exact .slnil
  | cons log rest ih => exact .cons_cons log (List.filter_sublist.trans ih)

theorem dedupLogs_nodup (logs : List UsageLog) : ((dedupLogs logs).map UsageLog.id).Nodup := by
  induction logs with
  | nil => exact List.nodup_nil
  | cons log rest ih =>
    rw [dedupLogs, List.map_cons, List.nodup_cons]
    refine ⟨?_, ih.sublist (List.filter_sublist.map _)⟩
    intro repeated
    obtain ⟨other, kept, same⟩ := List.mem_map.1 repeated
    exact of_decide_eq_true (List.mem_filter.1 kept).2 same

theorem find_of_mem_dedupLogs {logs : List UsageLog} {log : UsageLog} (kept : log ∈ dedupLogs logs) :
    logs.find? (fun other => other.id = log.id) = some log := by
  induction logs with
  | nil => cases kept
  | cons first rest ih =>
    rw [dedupLogs] at kept
    rcases List.mem_cons.1 kept with rfl | behind
    · simp
    · obtain ⟨later, apart⟩ := List.mem_filter.1 behind
      have other : ¬first.id = log.id := fun same => of_decide_eq_true apart same.symm
      rw [List.find?_cons_of_neg (by simpa using other)]
      exact ih later

/-- The counted logs have ids of their own, and each is the first log of its id in the order of
replay. -/
structure CountedOnce (logs : List UsageLog) : Prop where
  distinct : ((logs.filter UsageLog.isRequestQuotaCounted).map UsageLog.id).Nodup
  first : ∀ log ∈ logs, log.isRequestQuotaCounted →
    logs.find? (fun other => other.id = log.id) = some log

theorem dedupLogs_counted {logs : List UsageLog} (once : CountedOnce logs) :
    (dedupLogs logs).filter UsageLog.isRequestQuotaCounted =
      logs.filter UsageLog.isRequestQuotaCounted := by
  induction logs with
  | nil => rfl
  | cons log rest ih =>
    -- no counted log behind has the id of this one
    have apart : ∀ other ∈ rest, other.isRequestQuotaCounted → other.id ≠ log.id := by
      intro other behind counted same
      have found := once.first other (List.mem_cons_of_mem _ behind) counted
      rw [List.find?_cons_of_pos (by simpa using same.symm)] at found
      obtain rfl := Option.some.inj found
      have twice := once.distinct
      rw [List.filter_cons_of_pos counted, List.map_cons, List.nodup_cons] at twice
      exact twice.1 (List.mem_map_of_mem (List.mem_filter.2 ⟨behind, counted⟩))
    have later : CountedOnce rest := by
      refine ⟨once.distinct.sublist ((List.sublist_cons_self log rest).filter _ |>.map _), ?_⟩
      intro other behind counted
      have found := once.first other (List.mem_cons_of_mem _ behind) counted
      rwa [List.find?_cons_of_neg (by simpa using (apart other behind counted).symm)] at found
    have kept : ((dedupLogs rest).filter fun other => other.id ≠ log.id).filter
        UsageLog.isRequestQuotaCounted = rest.filter UsageLog.isRequestQuotaCounted := by
      rw [List.filter_comm, ih later]
      refine List.filter_eq_self.2 fun other known => ?_
      obtain ⟨behind, counted⟩ := List.mem_filter.1 known
      exact decide_eq_true (apart other behind counted)
    rw [dedupLogs, List.filter_cons, List.filter_cons, kept]

theorem countedOnce_of_dedupLogs {logs : List UsageLog}
    (same : (dedupLogs logs).filter UsageLog.isRequestQuotaCounted =
      logs.filter UsageLog.isRequestQuotaCounted) : CountedOnce logs where
  distinct := by
    rw [← same]
    exact (dedupLogs_nodup logs).sublist (List.filter_sublist.map _)
  first log known counted := by
    have kept : log ∈ (dedupLogs logs).filter UsageLog.isRequestQuotaCounted := by
      rw [same]
      exact List.mem_filter.2 ⟨known, counted⟩
    exact find_of_mem_dedupLogs (List.mem_filter.1 kept).1

def countsWithin (downstreamId : String) (start stop : Nat) (log : UsageLog) : Bool :=
  log.isRequestQuotaCounted && log.downstreamKeyId = downstreamId && start ≤ log.createdAt &&
    log.createdAt ≤ stop

theorem live_requestsWithin {config : LedgerConfig} {requests : List SettledRequest}
    (distinct : (requests.map SettledRequest.eventId).Nodup) (downstreamId : String)
    (start stop : Nat) :
    requestsWithin start stop
        ((DownstreamWindows.settleAll config requests).requestWindow downstreamId) =
      (requests.map SettledRequest.stored).countP (countsWithin downstreamId start stop) := by
  rw [DownstreamWindows.settleAll_requestWindow distinct, requestsWithin,
    ← List.countP_eq_length_filter, List.countP_map, List.countP_filter, List.countP_map]
  refine List.countP_congr fun request _ => ?_
  simp only [countsWithin, Function.comp_apply, Bool.and_eq_true, decide_eq_true_eq]
  simp only [SettledRequest.event]
  tauto

theorem rebuilt_requestsWithin (config : LedgerConfig) (logs : List UsageLog)
    (downstreamId : String) (start stop : Nat) :
    requestsWithin start stop ((rebuiltWindows config logs).requestWindow downstreamId) =
      (normalizedUsageLogs logs).countP (countsWithin downstreamId start stop) := by
  rw [rebuilt_requestWindow, requestsWithin, ← List.countP_eq_length_filter, List.countP_map,
    List.countP_filter, List.countP_filter]
  refine List.countP_congr fun log _ => ?_
  simp only [countsWithin, Function.comp_apply, Bool.and_eq_true, decide_eq_true_eq]
  tauto

theorem counted_eq_of_counts {kept logs : List UsageLog} (inside : kept.Sublist logs)
    (counts : ∀ downstreamId,
      logs.countP (fun log => log.isRequestQuotaCounted && log.downstreamKeyId = downstreamId) =
        kept.countP fun log => log.isRequestQuotaCounted && log.downstreamKeyId = downstreamId) :
    kept.filter UsageLog.isRequestQuotaCounted = logs.filter UsageLog.isRequestQuotaCounted := by
  induction inside with
  | slnil => rfl
  | @cons kept logs log inside ih =>
    have uncounted : ¬log.isRequestQuotaCounted = true := by
      intro counted
      have less : kept.countP (fun other => other.isRequestQuotaCounted &&
          other.downstreamKeyId = log.downstreamKeyId) ≤
            logs.countP fun other => other.isRequestQuotaCounted &&
              other.downstreamKeyId = log.downstreamKeyId :=
        inside.countP_le
      have same := counts log.downstreamKeyId
      rw [List.countP_cons_of_pos (by simp [counted])] at same
      omega
    rw [List.filter_cons_of_neg uncounted]
    refine ih fun downstreamId => ?_
    have same := counts downstreamId
    rwa [List.countP_cons_of_neg (by simp [uncounted])] at same
  | @cons_cons kept logs log inside ih =>
    rw [List.filter_cons, List.filter_cons, ih]
    intro downstreamId
    have same := counts downstreamId
    rw [List.countP_cons, List.countP_cons] at same
    omega

section Pointwise

variable {A B : Type} {f g : A → Option B} {weight : B → Nat}

theorem length_filterMap_le (covered : ∀ item, (f item).isSome → (g item).isSome) (items : List A) :
    (items.filterMap f).length ≤ (items.filterMap g).length := by
  induction items with
  | nil => exact le_rfl
  | cons item rest ih =>
    have here := covered item
    rw [List.filterMap_cons, List.filterMap_cons]
    cases first : f item <;> cases second : g item <;> simp_all
    omega

-- Where the two lists are as long as each other, they have an entry for the same items.
theorem isSome_of_length (covered : ∀ item, (f item).isSome → (g item).isSome) {items : List A}
    (lengths : (items.filterMap f).length = (items.filterMap g).length) :
    ∀ item ∈ items, (f item).isSome = (g item).isSome := by
  induction items with
  | nil =>
    intro item known
    cases known
  | cons head rest ih =>
    have here := covered head
    have behind := length_filterMap_le covered rest
    rw [List.filterMap_cons, List.filterMap_cons] at lengths
    have agree : (f head).isSome = (g head).isSome ∧
        (rest.filterMap f).length = (rest.filterMap g).length := by
      cases first : f head <;> cases second : g head <;> simp_all
    intro item known
    rcases List.mem_cons.1 known with rfl | known
    · exact agree.1
    · exact ih agree.2 item known

-- Of two lists with entries for the same items, the one that is never heavier has the same
-- entries when it weighs the same.
theorem eq_of_weight (lighter : ∀ item first second, f item = some first → g item = some second →
      weight second ≤ weight first ∧ (weight second = weight first → second = first))
    {items : List A} (present : ∀ item ∈ items, (f item).isSome = (g item).isSome) :
    ((items.filterMap g).map weight).sum ≤ ((items.filterMap f).map weight).sum ∧
      (((items.filterMap g).map weight).sum = ((items.filterMap f).map weight).sum →
        ∀ item ∈ items, f item = g item) := by
  induction items with
  | nil =>
    refine ⟨le_rfl, fun _ item known => ?_⟩
    cases known
  | cons head rest ih =>
    obtain ⟨behind, same⟩ := ih fun item known => present item (List.mem_cons_of_mem _ known)
    have here := present head List.mem_cons_self
    rw [List.filterMap_cons, List.filterMap_cons]
    cases first : f head with
    | none =>
      cases second : g head with
      | none =>
        refine ⟨behind, fun sums item known => ?_⟩
        rcases List.mem_cons.1 known with rfl | known
        · rw [first, second]
        · exact same sums item known
      | some entry => simp [first, second] at here
    | some entry =>
      cases second : g head with
      | none => simp [first, second] at here
      | some other =>
        obtain ⟨less, equal⟩ := lighter head entry other first second
        simp only [List.map_cons, List.sum_cons]
        refine ⟨by omega, fun sums item known => ?_⟩
        rcases List.mem_cons.1 known with rfl | known
        · rw [first, second, equal (by omega)]
        · exact same (by omega) item known

end Pointwise

section Costs

variable {config : LedgerConfig} {scopeId : String} {log : UsageLog}

theorem costScope_limited (config : LedgerConfig) (downstreamId : String) :
    (config.costScopeFor downstreamId).isLimited = true ↔
      LimitedScope config (config.costScopeFor downstreamId).scopeId := by
  rw [CostScope.isLimited, LedgerConfig.costScopeFor, resolveCostScope, LimitedScope]
  dsimp only
  cases config.limits.lookup ((config.owners.lookup downstreamId).getD downstreamId) with
  | none => simp
  | some limit => by_cases positive : 0 < limit <;> simp [positive, Option.filter]

def BilledAlike (config : LedgerConfig) (log : UsageLog) : Prop :=
  ∃ downstream,
    config.downstreams.find? (fun downstream => downstream.id = log.downstreamKeyId) =
      some downstream ∧
    downstream.rateLimitEnabled ∧ downstream.hasCostPricing ∧
    (log.totalCostCents = none →
      downstream.costForTokens log.promptTokens log.completionTokens = 0)

theorem bookedOn_eq_some {event : DownstreamTokenEvent} :
    bookedOn config scopeId log = some event ↔
      log.isRequestQuotaCounted ∧ (config.costScopeFor log.downstreamKeyId).scopeId = scopeId ∧
        LimitedScope config scopeId ∧
        ∃ downstream,
          config.downstreams.find? (fun downstream => downstream.id = log.downstreamKeyId) =
            some downstream ∧
          downstream.rateLimitEnabled ∧ downstream.hasCostPricing ∧
          event = ⟨log.createdAt, log.totalCostCents.getD
            (downstream.costForTokens log.promptTokens log.completionTokens)⟩ := by
  have limited := costScope_limited config log.downstreamKeyId
  rw [bookedOn, usageEvent]
  by_cases counted : log.isRequestQuotaCounted = true
  · cases found : config.downstreams.find? fun downstream =>
        downstream.id = log.downstreamKeyId with
    | none => simp [counted]
    | some downstream =>
      by_cases own : (config.costScopeFor log.downstreamKeyId).scopeId = scopeId
      · subst own
        by_cases billed : (downstream.rateLimitEnabled && downstream.hasCostPricing &&
            (config.costScopeFor log.downstreamKeyId).isLimited) = true
        · simp only [Bool.and_eq_true] at billed
          simpa [counted, Option.filter, billed, limited.1 billed.2] using eq_comm
        · simp only [Bool.and_eq_true, limited] at billed
          simp only [counted, Option.filter, Bool.and_eq_true, limited, billed]
          simp
          tauto
      · by_cases billed : (downstream.rateLimitEnabled && downstream.hasCostPricing &&
            (config.costScopeFor log.downstreamKeyId).isLimited) = true <;>
          simp [counted, Option.filter, own, billed]
  · simp [counted]

theorem replayedOn_eq_some {event : DownstreamTokenEvent} :
    replayedOn config scopeId log = some event ↔
      log.isRequestQuotaCounted ∧ (config.costScopeFor log.downstreamKeyId).scopeId = scopeId ∧
        costBilled config log ∧ event = ⟨log.createdAt, log.totalCostCents.getD 0⟩ := by
  rw [replayedOn]
  by_cases counted : log.isRequestQuotaCounted = true <;>
    by_cases billed : costBilled config log = true <;>
    by_cases own : (config.costScopeFor log.downstreamKeyId).scopeId = scopeId <;>
    simp [counted, billed, own, eq_comm]

theorem replayed_of_booked (config : LedgerConfig) (scopeId : String) (log : UsageLog)
    (booked : (bookedOn config scopeId log).isSome) : (replayedOn config scopeId log).isSome := by
  obtain ⟨event, booked⟩ := Option.isSome_iff_exists.1 booked
  obtain ⟨counted, own, -, downstream, found, -, priced, -⟩ := bookedOn_eq_some.1 booked
  have billed : costBilled config log := by
    rw [costBilled, List.any_eq_true]
    refine ⟨downstream, List.mem_of_find?_eq_some found, ?_⟩
    have named := List.find?_some found
    rw [named, priced]
    rfl
  exact Option.isSome_iff_exists.2 ⟨_, replayedOn_eq_some.2 ⟨counted, own, billed, rfl⟩⟩

-- A replayed cost is at most the booked one, and the same event where it is as high.
theorem replayed_lighter (config : LedgerConfig) (scopeId : String) (log : UsageLog)
    (booked replayed : DownstreamTokenEvent) (live : bookedOn config scopeId log = some booked)
    (again : replayedOn config scopeId log = some replayed) :
    replayed.tokens ≤ booked.tokens ∧ (replayed.tokens = booked.tokens → replayed = booked) := by
  obtain ⟨-, -, -, downstream, -, -, -, rfl⟩ := bookedOn_eq_some.1 live
  obtain ⟨-, -, -, rfl⟩ := replayedOn_eq_some.1 again
  cases log.totalCostCents with
  | none => exact ⟨Nat.zero_le _, fun same => congrArg _ same⟩
  | some cost => exact ⟨le_rfl, fun _ => rfl⟩

theorem booked_eq_replayed_iff (counted : log.isRequestQuotaCounted) :
    (∀ scopeId, LimitedScope config scopeId →
      bookedOn config scopeId log = replayedOn config scopeId log) ↔
    (LimitedScope config (config.costScopeFor log.downstreamKeyId).scopeId →
      costBilled config log → BilledAlike config log) := by
  constructor
  · intro same limited billed
    have again := replayedOn_eq_some.2 ⟨counted, rfl, billed, rfl⟩
    rw [← same _ limited] at again
    obtain ⟨-, -, -, downstream, found, enabled, priced, equal⟩ := bookedOn_eq_some.1 again
    refine ⟨downstream, found, enabled, priced, fun absent => ?_⟩
    have costs := congrArg DownstreamTokenEvent.tokens equal
    simp only [absent, Option.getD_none] at costs
    exact costs.symm
  · intro alike scopeId limited
    cases again : replayedOn config scopeId log with
    | none =>
      by_contra booked
      have entry := replayed_of_booked config scopeId log (Option.isSome_iff_ne_none.2 booked)
      rw [again] at entry
      cases entry
    | some event =>
      obtain ⟨-, rfl, billed, rfl⟩ := replayedOn_eq_some.1 again
      obtain ⟨downstream, found, enabled, priced, free⟩ := alike limited billed
      refine bookedOn_eq_some.2 ⟨counted, rfl, limited, downstream, found, enabled, priced, ?_⟩
      cases cost : log.totalCostCents with
      | none => rw [Option.getD_none, Option.getD_none, free cost]
      | some amount => rfl

theorem filterMap_counted {f : UsageLog → Option DownstreamTokenEvent}
    (counted : ∀ log event, f log = some event → log.isRequestQuotaCounted) (logs : List UsageLog) :
    logs.filterMap f = (logs.filter UsageLog.isRequestQuotaCounted).filterMap f := by
  rw [List.filterMap_filter]
  refine List.filterMap_congr fun log _ => ?_
  cases found : f log with
  | none => split <;> rfl
  | some event => rw [if_pos (counted log event found)]

end Costs

/-- Counted logs do not repeat an id and come first of their id in the order of replay. Of a
counted log whose scope is limited and whose key is billed by cost, the key is rate limited, and a
cost that is missing is computed as nothing. -/
structure ReplaysAlike (config : LedgerConfig) (logs : List UsageLog) : Prop where
  once : CountedOnce (logs.mergeSort UsageLog.replaysBefore)
  billed : ∀ log ∈ logs, log.isRequestQuotaCounted →
    LimitedScope config (config.costScopeFor log.downstreamKeyId).scopeId →
      costBilled config log → BilledAlike config log

section Ledger

variable {config : LedgerConfig} {requests : List SettledRequest}

theorem booked_window (requests : List SettledRequest) (scopeId : String) :
    (DownstreamWindows.settleAll config requests).tokenWindow scopeId =
      ((requests.map SettledRequest.stored).filter UsageLog.isRequestQuotaCounted).filterMap
        (bookedOn config scopeId) := by
  rw [DownstreamWindows.settleAll_tokenWindow, filterMap_counted]
  exact fun log event booked => (bookedOn_eq_some.1 booked).1

theorem replayed_window {logs : List UsageLog}
    (once : CountedOnce (logs.mergeSort UsageLog.replaysBefore)) (scopeId : String) :
    (rebuiltWindows config logs).tokenWindow scopeId =
      ((logs.mergeSort UsageLog.replaysBefore).filter UsageLog.isRequestQuotaCounted).filterMap
        (replayedOn config scopeId) := by
  rw [rebuilt_tokenWindow, filterMap_counted, normalizedUsageLogs, dedupLogs_counted once]
  exact fun log event replayed => (replayedOn_eq_some.1 replayed).1

theorem countedOnce_of_sameRequests (distinct : (requests.map SettledRequest.eventId).Nodup)
    (same : ∀ downstreamId start stop, requestsWithin start stop
        ((DownstreamWindows.settleAll config requests).requestWindow downstreamId) =
      requestsWithin start stop ((rebuiltWindows config
        (requests.map SettledRequest.stored)).requestWindow downstreamId)) :
    CountedOnce ((requests.map SettledRequest.stored).mergeSort UsageLog.replaysBefore) := by
  set logs := requests.map SettledRequest.stored with stored
  refine countedOnce_of_dedupLogs (counted_eq_of_counts (dedupLogs_sublist _) fun downstreamId => ?_)
  -- a window that no log lies outside of
  have whole : ∀ log ∈ logs, countsWithin downstreamId 0 ((logs.map UsageLog.createdAt).sum) log =
      (log.isRequestQuotaCounted && log.downstreamKeyId = downstreamId) := by
    intro log known
    have inside : log.createdAt ≤ (logs.map UsageLog.createdAt).sum :=
      List.le_sum_of_mem (List.mem_map_of_mem known)
    simp [countsWithin, inside]
  have counts := same downstreamId 0 (logs.map UsageLog.createdAt).sum
  rw [live_requestsWithin distinct, rebuilt_requestsWithin, ← stored] at counts
  have sorted := (List.mergeSort_perm logs UsageLog.replaysBefore)
  rw [← sorted.countP_eq] at counts
  have left : (logs.mergeSort UsageLog.replaysBefore).countP
      (countsWithin downstreamId 0 (logs.map UsageLog.createdAt).sum) =
        (logs.mergeSort UsageLog.replaysBefore).countP fun log =>
          log.isRequestQuotaCounted && log.downstreamKeyId = downstreamId :=
    List.countP_congr fun log known => by rw [whole log (sorted.mem_iff.1 known)]
  have right : (normalizedUsageLogs logs).countP
      (countsWithin downstreamId 0 (logs.map UsageLog.createdAt).sum) =
        (normalizedUsageLogs logs).countP fun log =>
          log.isRequestQuotaCounted && log.downstreamKeyId = downstreamId :=
    List.countP_congr fun log known => by
      rw [whole log (sorted.mem_iff.1 ((dedupLogs_sublist _).mem known))]
  rw [← left, counts, right]
  rfl

theorem sameRequests_of_countedOnce (distinct : (requests.map SettledRequest.eventId).Nodup)
    (once : CountedOnce ((requests.map SettledRequest.stored).mergeSort UsageLog.replaysBefore))
    (downstreamId : String) (start stop : Nat) :
    requestsWithin start stop
        ((DownstreamWindows.settleAll config requests).requestWindow downstreamId) =
      requestsWithin start stop ((rebuiltWindows config
        (requests.map SettledRequest.stored)).requestWindow downstreamId) := by
  rw [live_requestsWithin distinct, rebuilt_requestsWithin]
  have split : ∀ logs : List UsageLog, logs.countP (countsWithin downstreamId start stop) =
      (logs.filter UsageLog.isRequestQuotaCounted).countP (countsWithin downstreamId start stop) := by
    intro logs
    rw [List.countP_filter]
    refine List.countP_congr fun log _ => ?_
    simp only [countsWithin, Bool.and_eq_true]
    tauto
  rw [split, split (normalizedUsageLogs _), normalizedUsageLogs, dedupLogs_counted once]
  exact ((List.mergeSort_perm _ _).filter _).symm.countP_eq _

end Ledger

def costlyRequest : SettledRequest where
  log := ⟨"log", "priced", "request", 200, 0, 0, some 100, 1000⟩
  freshId := "fresh"
  now := 1000
  eventId := "event"

def unlimitedKeyBudget : LedgerConfig :=
  { BudgetState.sharedBudget with
    downstreams := [{ BudgetState.pricedKey with rateLimitEnabled := false }] }

end ChatGateway
