import Mathlib.Logic.Function.Basic
import ChatGateway.Protocol.ChatToResponses

set_option autoImplicit false

/-!
# The events of each output item

The events of a stream, read item by item: an item is known by its output index, and its events are
one that adds it, deltas, one that ends its text and one that ends the item.
-/

namespace ChatGateway

namespace OutputItem

def channel : OutputItem → Channel
  | reasoning .. => .reasoning
  | message .. => .text
  | functionCall .. => .arguments

def content : OutputItem → String
  | reasoning _ _ text => text.getD ""
  | message _ _ text => text.getD ""
  | functionCall _ _ _ _ arguments _ => arguments

end OutputItem

inductive ItemMark where
  | added (channel : Channel)
  | delta (channel : Channel) (text : String)
  | done (channel : Channel) (text : String)
  | itemDone (channel : Channel) (text : String)
deriving DecidableEq

namespace ResponsesEventBody

def mark : ResponsesEventBody → Option (Nat × ItemMark)
  | created .. => none
  | itemAdded _ outputIndex item => some (outputIndex, .added item.channel)
  | delta channel _ _ outputIndex text => some (outputIndex, .delta channel text)
  | done channel _ _ outputIndex _ text => some (outputIndex, .done channel text)
  | itemDone _ outputIndex item => some (outputIndex, .itemDone item.channel item.content)
  | terminal _ => none

def isCreated : ResponsesEventBody → Bool
  | created .. => true
  | _ => false

def terminal? : ResponsesEventBody → Option TerminalResponse
  | terminal response => some response
  | _ => none

end ResponsesEventBody

def itemMarks (index : Nat) (events : List ResponsesEvent) : List ItemMark :=
  events.filterMap fun event =>
    event.body.mark.bind fun mark => if mark.1 = index then some mark.2 else none

@[simp] theorem itemMarks_nil (index : Nat) : itemMarks index [] = [] := rfl

@[simp] theorem itemMarks_append (index : Nat) (earlier later : List ResponsesEvent) :
    itemMarks index (earlier ++ later) = itemMarks index earlier ++ itemMarks index later :=
  List.filterMap_append

theorem itemMarks_cons (index : Nat) (event : ResponsesEvent) (rest : List ResponsesEvent) :
    itemMarks index (event :: rest) =
      (match event.body.mark with
        | some (other, mark) => if other = index then [mark] else []
        | none => []) ++ itemMarks index rest := by
  unfold itemMarks
  rw [List.filterMap_cons]
  rcases found : event.body.mark with _ | ⟨other, mark⟩
  · rfl
  · by_cases same : other = index <;> simp [same]

inductive ItemPhase where
  | absent
  | opened (channel : Channel) (deltas : List String)
  | closed (channel : Channel) (deltas : List String) (text : String)
deriving DecidableEq

def openMarks (channel : Channel) (deltas : List String) : List ItemMark :=
  .added channel :: deltas.map (.delta channel)

def ItemPhase.marks : ItemPhase → List ItemMark
  | absent => []
  | opened channel deltas => openMarks channel deltas
  | closed channel deltas text =>
    openMarks channel deltas ++ [.done channel text, .itemDone channel text]

abbrev Ledger := Nat → ItemPhase

/-- The events so far are numbered from one, the first of them creates the response, none ends it
and the items are where the ledger has them. -/
structure Journal (created : Bool) (events : List ResponsesEvent) (ledger : Ledger) : Prop where
  numbered : events.map ResponsesEvent.sequenceNumber = List.range' 1 events.length
  opening : if created then
      ∃ first rest, events = first :: rest ∧ first.body.isCreated = true ∧
        ∀ event ∈ rest, event.body.isCreated = false
    else events = []
  unended : ∀ event ∈ events, event.body.terminal? = none
  marks : ∀ index, itemMarks index events = (ledger index).marks

theorem Journal.start : Journal false [] fun _ => .absent where
  numbered := rfl
  opening := by simp
  unended := by simp
  marks _ := rfl

def Continues (count : Nat) (events : List ResponsesEvent) : Prop :=
  events.map ResponsesEvent.sequenceNumber = List.range' (count + 1) events.length

theorem Journal.append {events new : List ResponsesEvent} {ledger next : Ledger}
    (journal : Journal true events ledger) (numbers : Continues events.length new)
    (plain : ∀ event ∈ new, event.body.isCreated = false ∧ event.body.terminal? = none)
    (moved : ∀ index, (next index).marks = (ledger index).marks ++ itemMarks index new) :
    Journal true (events ++ new) next where
  numbered := by
    rw [List.map_append, journal.numbered, numbers, List.length_append, Nat.add_comm events.length 1,
      List.range'_append_1]
  opening := by
    obtain ⟨first, rest, rfl, isCreated, others⟩ := journal.opening
    refine ⟨first, rest ++ new, rfl, isCreated, fun event member => ?_⟩
    rcases List.mem_append.1 member with earlier | later
    · exact others event earlier
    · exact (plain event later).1
  unended event member := by
    rcases List.mem_append.1 member with earlier | later
    · exact journal.unended event earlier
    · exact (plain event later).2
  marks index := by rw [itemMarks_append, journal.marks, moved]

theorem Journal.create {event : ResponsesEvent} {ledger : Ledger}
    (journal : Journal false [] ledger) (numbered : event.sequenceNumber = 1)
    (created : event.body.isCreated = true) : Journal true [event] ledger where
  numbered := by simp [numbered]
  opening := ⟨event, [], rfl, created, by simp⟩
  unended other member := by
    obtain rfl := List.mem_singleton.1 member
    cases body : other.body <;> simp_all [ResponsesEventBody.isCreated, ResponsesEventBody.terminal?]
  marks index := by
    have none : event.body.mark = none := by
      cases body : event.body <;> simp_all [ResponsesEventBody.isCreated, ResponsesEventBody.mark]
    rw [itemMarks_cons, none, ← journal.marks index]
    rfl

theorem Journal.move {events new : List ResponsesEvent} {ledger : Ledger} {index : Nat}
    {phase : ItemPhase} (journal : Journal true events ledger)
    (numbers : Continues events.length new)
    (own : ∀ event ∈ new, event.body.mark.map (·.1) = some index)
    (moved : phase.marks = (ledger index).marks ++ itemMarks index new) :
    Journal true (events ++ new) (Function.update ledger index phase) := by
  refine journal.append numbers ?_ ?_
  · intro event member
    have marked := own event member
    cases body : event.body <;>
      simp_all [ResponsesEventBody.mark, ResponsesEventBody.isCreated,
        ResponsesEventBody.terminal?]
  · intro other
    by_cases same : other = index
    · subst same
      rw [Function.update_self, moved]
    · have silent : itemMarks other new = [] := by
        rw [itemMarks, List.filterMap_eq_nil_iff]
        intro event member
        obtain ⟨mark, found, first⟩ := Option.map_eq_some_iff.1 (own event member)
        simp [found, first, Ne.symm same]
      rw [Function.update_of_ne same, silent, List.append_nil]

end ChatGateway
