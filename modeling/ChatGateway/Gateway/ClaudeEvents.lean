import ChatGateway.Gateway.ClaudeStream

set_option autoImplicit false

/-!
# Well-formed Claude streams

What a client of the Messages API may rely on, and the record of a stream so far that shows it.
-/

namespace ChatGateway

namespace ClaudeEvent

def isKeepAlive : ClaudeEvent → Bool
  | keepAlive => true
  | _ => false

def blockIndex? : ClaudeEvent → Option Nat
  | blockStart index _ | blockDelta index _ | blockStop index => some index
  | _ => none

def startIndex? : ClaudeEvent → Option Nat
  | blockStart index _ => some index
  | _ => none

end ClaudeEvent

def visibleEvents (events : List ClaudeEvent) : List ClaudeEvent :=
  events.filter fun event => !event.isKeepAlive

def blockEvents (index : Nat) (events : List ClaudeEvent) : List ClaudeEvent :=
  events.filter fun event => event.blockIndex? = some index

theorem blockEvents_append (index : Nat) (first second : List ClaudeEvent) :
    blockEvents index (first ++ second) = blockEvents index first ++ blockEvents index second :=
  List.filter_append ..

theorem blockEvents_append_other {index : Nat} {event : ClaudeEvent}
    (other : event.blockIndex? ≠ some index) (events : List ClaudeEvent) :
    blockEvents index (events ++ [event]) = blockEvents index events := by
  rw [blockEvents_append]
  simp [blockEvents, other]

theorem blockEvents_append_own {index : Nat} {event : ClaudeEvent}
    (own : event.blockIndex? = some index) (events : List ClaudeEvent) :
    blockEvents index (events ++ [event]) = blockEvents index events ++ [event] := by
  rw [blockEvents_append]
  simp [blockEvents, own]

def BlockTrace (index : Nat) (isOpen : Bool) (events : List ClaudeEvent) : Prop :=
  ∃ (block : ClaudeBlock) (deltas : List ClaudeDelta),
    events = .blockStart index block :: deltas.map (.blockDelta index) ++
      if isOpen then [] else [.blockStop index]

/-- A message from its start to its stop with nothing but blocks between, or one that an error cut
off. -/
inductive ClaudeShape : List ClaudeEvent → Prop where
  | message (id model : String) (inputTokens : Nat) (body : List ClaudeEvent)
      (blocks : ∀ event ∈ body, event.blockIndex?.isSome) (stopReason : String)
      (outputTokens : Nat) :
      ClaudeShape (.messageStart id model inputTokens :: body ++
        [.messageDelta stopReason outputTokens, .messageStop])
  | failedAtOnce (error : List (String × Json)) : ClaudeShape [.error error]
  | failed (id model : String) (inputTokens : Nat) (body : List ClaudeEvent)
      (blocks : ∀ event ∈ body, event.blockIndex?.isSome) (error : List (String × Json)) :
      ClaudeShape (.messageStart id model inputTokens :: body ++ [.error error])

/-- The blocks are numbered in the order they start, each has one start, deltas and one stop, which
only an error may cost it, and the whole has the shape of a message. Keep-alives do not count. -/
structure WellFormedClaudeStream (events : List ClaudeEvent) : Prop where
  shape : ClaudeShape (visibleEvents events)
  blocks : ∃ count, (visibleEvents events).filterMap ClaudeEvent.startIndex? = List.range count ∧
    (∀ index, count ≤ index → blockEvents index (visibleEvents events) = []) ∧
    ∀ index, index < count → ∃ isOpen,
      BlockTrace index isOpen (blockEvents index (visibleEvents events)) ∧
      (isOpen = true → ∃ error, (visibleEvents events).getLast? = some (.error error))

inductive ClaudePhase where
  | waiting
  | running
  | ended
deriving DecidableEq, Repr

def PhaseShape (visible : List ClaudeEvent) (slots : List Bool) : ClaudePhase → Prop
  | .waiting => visible = []
  | .running => ∃ id model inputTokens body, visible = .messageStart id model inputTokens :: body ∧
      ∀ event ∈ body, event.blockIndex?.isSome
  | .ended => ClaudeShape visible ∧
      ((∃ index : Nat, slots[index]? = some true) → ∃ error, visible.getLast? = some (.error error))

structure Recorded (events : List ClaudeEvent) (phase : ClaudePhase) (slots : List Bool) : Prop where
  shape : PhaseShape (visibleEvents events) slots phase
  starts : (visibleEvents events).filterMap ClaudeEvent.startIndex? = List.range slots.length
  fresh : ∀ index, slots.length ≤ index → blockEvents index (visibleEvents events) = []
  traces : ∀ (index : Nat) isOpen, slots[index]? = some isOpen →
    BlockTrace index isOpen (blockEvents index (visibleEvents events))

namespace Recorded

variable {events : List ClaudeEvent} {phase : ClaudePhase} {slots : List Bool}

theorem start : Recorded [] .waiting [] :=
  ⟨rfl, rfl, fun _ _ => rfl, by simp⟩

theorem wellFormed (record : Recorded events .ended slots) : WellFormedClaudeStream events where
  shape := record.shape.1
  blocks := by
    refine ⟨slots.length, record.starts, record.fresh, ?_⟩
    intro index below
    refine ⟨slots[index], record.traces index _ (List.getElem?_eq_getElem below), ?_⟩
    intro opened
    exact record.shape.2 ⟨index, by rw [List.getElem?_eq_getElem below, opened]⟩

theorem keepAlive (record : Recorded events phase slots) :
    Recorded (events ++ [.keepAlive]) phase slots := by
  have same : visibleEvents (events ++ [.keepAlive]) = visibleEvents events := by
    simp [visibleEvents, ClaudeEvent.isKeepAlive]
  obtain ⟨shape, starts, fresh, traces⟩ := record
  rw [← same] at shape starts fresh traces
  exact ⟨shape, starts, fresh, traces⟩

theorem visible_append {event : ClaudeEvent} (seen : event.isKeepAlive = false) :
    visibleEvents (events ++ [event]) = visibleEvents events ++ [event] := by
  simp [visibleEvents, seen]

theorem outside (record : Recorded events phase slots) {event : ClaudeEvent} {next : ClaudePhase}
    (seen : event.isKeepAlive = false) (elsewhere : event.blockIndex? = none)
    (shape : PhaseShape (visibleEvents events ++ [event]) slots next) :
    Recorded (events ++ [event]) next slots := by
  have unstarted : event.startIndex? = none := by
    cases event <;> simp_all [ClaudeEvent.blockIndex?, ClaudeEvent.startIndex?]
  refine ⟨?_, ?_, ?_, ?_⟩
  · rw [visible_append seen]
    exact shape
  · rw [visible_append seen, List.filterMap_append, record.starts]
    simp [unstarted]
  · intro index above
    rw [visible_append seen, blockEvents_append_other (by simp [elsewhere])]
    exact record.fresh index above
  · intro index isOpen found
    rw [visible_append seen, blockEvents_append_other (by simp [elsewhere])]
    exact record.traces index isOpen found

theorem messageStart (record : Recorded events .waiting slots) (id model : String)
    (inputTokens : Nat) :
    Recorded (events ++ [.messageStart id model inputTokens]) .running slots :=
  record.outside rfl rfl
    ⟨id, model, inputTokens, [], by rw [show visibleEvents events = [] from record.shape]; rfl,
      by simp⟩

theorem error (record : Recorded events phase slots) (live : phase ≠ .ended)
    (error : List (String × Json)) : Recorded (events ++ [.error error]) .ended slots := by
  refine record.outside rfl rfl ⟨?_, fun _ => ⟨error, by simp⟩⟩
  cases phase with
  | waiting =>
    rw [show visibleEvents events = [] from record.shape]
    exact .failedAtOnce error
  | running =>
    obtain ⟨id, model, inputTokens, body, same, blocks⟩ := record.shape
    rw [same]
    exact .failed id model inputTokens body blocks error
  | ended => exact absurd rfl live

theorem messageEnd (record : Recorded events .running slots)
    (closed : ∀ index : Nat, slots[index]? ≠ some true) (stopReason : String) (outputTokens : Nat) :
    Recorded (events ++ [.messageDelta stopReason outputTokens, .messageStop]) .ended slots := by
  obtain ⟨id, model, inputTokens, body, same, blocks⟩ := record.shape
  have visible : visibleEvents (events ++ [.messageDelta stopReason outputTokens, .messageStop]) =
      visibleEvents events ++ [.messageDelta stopReason outputTokens] ++ [.messageStop] := by
    simp [visibleEvents, ClaudeEvent.isKeepAlive]
  have quiet (index : Nat) :
      blockEvents index (visibleEvents events ++ [.messageDelta stopReason outputTokens] ++
        [.messageStop]) = blockEvents index (visibleEvents events) := by
    rw [blockEvents_append_other (by simp [ClaudeEvent.blockIndex?]),
      blockEvents_append_other (by simp [ClaudeEvent.blockIndex?])]
  refine ⟨⟨?_, ?_⟩, ?_, ?_, ?_⟩
  · rw [visible, same, List.append_assoc]
    exact .message id model inputTokens body blocks stopReason outputTokens
  · rintro ⟨index, opened⟩
    exact absurd opened (closed index)
  · rw [visible, List.filterMap_append, List.filterMap_append, record.starts]
    simp [ClaudeEvent.startIndex?]
  · intro index above
    rw [visible, quiet]
    exact record.fresh index above
  · intro index isOpen found
    rw [visible, quiet]
    exact record.traces index isOpen found

theorem running_append (record : Recorded events .running slots) {event : ClaudeEvent}
    (inside : event.blockIndex?.isSome) (next : List Bool) :
    PhaseShape (visibleEvents events ++ [event]) next .running := by
  obtain ⟨id, model, inputTokens, body, same, blocks⟩ := record.shape
  refine ⟨id, model, inputTokens, body ++ [event], by rw [same]; rfl, ?_⟩
  intro other member
  rcases List.mem_append.1 member with earlier | last
  · exact blocks other earlier
  · rw [List.mem_singleton.1 last]
    exact inside

theorem blockStart (record : Recorded events .running slots) (block : ClaudeBlock) :
    Recorded (events ++ [.blockStart slots.length block]) .running (slots ++ [true]) := by
  refine ⟨?_, ?_, ?_, ?_⟩
  · rw [visible_append rfl]
    exact record.running_append rfl _
  · rw [visible_append rfl, List.filterMap_append, record.starts, List.length_append,
      List.length_singleton, List.range_succ]
    rfl
  · intro index above
    rw [List.length_append, List.length_singleton] at above
    rw [visible_append rfl, blockEvents_append_other]
    · exact record.fresh index (by omega)
    · intro clash
      cases clash
      omega
  · intro index isOpen found
    rw [visible_append rfl]
    by_cases same : slots.length = index
    · subst same
      have opened : isOpen = true := by simpa using found.symm
      rw [blockEvents_append_own rfl, record.fresh slots.length (Nat.le_refl _), opened]
      exact ⟨block, [], rfl⟩
    · rw [blockEvents_append_other (by simp [ClaudeEvent.blockIndex?, same])]
      have below : index < slots.length := by
        have bound := (List.getElem?_eq_some_iff.1 found).1
        rw [List.length_append, List.length_singleton] at bound
        omega
      rw [List.getElem?_append_left below] at found
      exact record.traces index isOpen found

theorem blockDelta (record : Recorded events .running slots) {index : Nat}
    (opened : slots[index]? = some true) (delta : ClaudeDelta) :
    Recorded (events ++ [.blockDelta index delta]) .running slots := by
  have below : index < slots.length := (List.getElem?_eq_some_iff.1 opened).1
  refine ⟨?_, ?_, ?_, ?_⟩
  · rw [visible_append rfl]
    exact record.running_append rfl _
  · rw [visible_append rfl, List.filterMap_append, record.starts]
    simp [ClaudeEvent.startIndex?]
  · intro place above
    rw [visible_append rfl, blockEvents_append_other]
    · exact record.fresh place above
    · intro clash
      cases clash
      omega
  · intro place isOpen found
    rw [visible_append rfl]
    by_cases same : index = place
    · subst same
      rw [opened, Option.some_inj] at found
      subst found
      obtain ⟨block, deltas, trace⟩ := record.traces index true opened
      refine ⟨block, deltas ++ [delta], ?_⟩
      rw [blockEvents_append_own rfl, trace]
      simp
    · rw [blockEvents_append_other (by simp [ClaudeEvent.blockIndex?, same])]
      exact record.traces place isOpen found

theorem blockStop (record : Recorded events .running slots) {index : Nat}
    (opened : slots[index]? = some true) :
    Recorded (events ++ [.blockStop index]) .running (slots.set index false) := by
  have below : index < slots.length := (List.getElem?_eq_some_iff.1 opened).1
  refine ⟨?_, ?_, ?_, ?_⟩
  · rw [visible_append rfl]
    exact record.running_append rfl _
  · rw [visible_append rfl, List.filterMap_append, record.starts, List.length_set]
    simp [ClaudeEvent.startIndex?]
  · intro place above
    rw [List.length_set] at above
    rw [visible_append rfl, blockEvents_append_other]
    · exact record.fresh place above
    · intro clash
      cases clash
      omega
  · intro place isOpen found
    rw [visible_append rfl]
    by_cases same : index = place
    · subst same
      rw [List.getElem?_set_self below, Option.some_inj] at found
      subst found
      obtain ⟨block, deltas, trace⟩ := record.traces index true opened
      refine ⟨block, deltas, ?_⟩
      rw [blockEvents_append_own rfl, trace]
      simp
    · rw [blockEvents_append_other (by simp [ClaudeEvent.blockIndex?, same])]
      rw [List.getElem?_set_ne same] at found
      exact record.traces place isOpen found

theorem running_of_slot (record : Recorded events phase slots) (live : phase ≠ .ended) {index : Nat}
    {isOpen : Bool} (found : slots[index]? = some isOpen) : phase = .running := by
  cases phase with
  | waiting =>
    have none := record.starts
    rw [show visibleEvents events = [] from record.shape] at none
    have below : index < slots.length := (List.getElem?_eq_some_iff.1 found).1
    have empty : slots.length = 0 := by simpa using congrArg List.length none.symm
    omega
  | running => rfl
  | ended => exact absurd rfl live

end Recorded

end ChatGateway
