import ChatGateway.Shared.Framing

set_option autoImplicit false

/-!
# Handling a sequence piece by piece

A loop that receives a sequence in chunks keeps a buffer, walks a cursor over its complete pieces
and hands each of them to a handler. Whatever the chunks are, the handler sees the pieces of the
whole sequence in order.
-/

namespace ChatGateway

namespace FrameLoop

variable {α σ ε : Type}

/-- What handling a piece leads to: the next piece, or one of the three early exits of the loop. A
rejected piece stays in the buffer or leaves it, after a refusal nothing at all is removed, and the
end of the sequence clears the buffer. -/
inductive Handled (σ ε : Type) where
  | next (state : σ)
  | rejected (state : σ) (error : ε) (stays : Bool)
  | refused (state : σ) (error : ε)
  | ended (state : σ)

def Handled.map (change : σ → σ) : Handled σ ε → Handled σ ε
  | .next state => .next (change state)
  | .rejected state error stays => .rejected (change state) error stays
  | .refused state error => .refused (change state) error
  | .ended state => .ended (change state)

def Handled.ofStep : σ × Option ε → Handled σ ε
  | (state, none) => .next state
  | (state, some error) => .rejected state error false

def Handled.ofEnd : σ × Option ε → Handled σ ε
  | (state, none) => .ended state
  | (state, some error) => .refused state error

theorem Handled.ofStep_map (change : σ → σ) (result : σ × Option ε) :
    Handled.ofStep (change result.1, result.2) = (Handled.ofStep result).map change := by
  obtain ⟨state, _ | error⟩ := result <;> rfl

theorem Handled.ofEnd_map (change : σ → σ) (result : σ × Option ε) :
    Handled.ofEnd (change result.1, result.2) = (Handled.ofEnd result).map change := by
  obtain ⟨state, _ | error⟩ := result <;> rfl

inductive Verdict (ε : Type) where
  | goesOn
  | failed (error : ε)
  | ended
deriving DecidableEq

structure Progress (α σ ε : Type) where
  state : σ
  verdict : Verdict ε := .goesOn
  pieces : List (List α × Nat) := []

def Progress.behind (piece : List α × Nat) (progress : Progress α σ ε) : Progress α σ ε :=
  { progress with pieces := piece :: progress.pieces }

def Progress.after (pieces : List (List α × Nat)) (progress : Progress α σ ε) : Progress α σ ε :=
  { progress with pieces := pieces ++ progress.pieces }

structure Outcome (α σ ε : Type) where
  state : σ
  error : Option ε := none
  stopped : Bool := true
  pieces : List (List α × Nat) := []

def Progress.close (finish : σ → σ × Option ε) (progress : Progress α σ ε) : Outcome α σ ε :=
  match progress.verdict with
  | .goesOn =>
    { state := (finish progress.state).1
      error := (finish progress.state).2
      stopped := false
      pieces := progress.pieces }
  | .failed error => { state := progress.state, error := some error, pieces := progress.pieces }
  | .ended => { state := progress.state, pieces := progress.pieces }

def slice (buffer : List α) (start : Nat) : Option (List α) :=
  if start ≤ buffer.length then some (buffer.drop start) else none

section Loop

variable (next : List α → Option (List α × Nat)) (handle : σ → List α → Nat → Handled σ ε)

/-- One turn for each unit of fuel; `none` is a slice outside the buffer. -/
def drainLoop : Nat → σ → List α → Nat → Option (Progress α σ ε × List α)
  | 0, state, buffer, consumed => (slice buffer consumed).map fun rest => ({ state }, rest)
  | fuel + 1, state, buffer, consumed =>
    match slice buffer consumed with
    | none => none
    | some rest =>
      match next rest with
      | none => some ({ state }, rest)
      | some (piece, length) =>
        let behind := consumed + (piece.length + length)
        match handle state piece length with
        | .next after =>
          (drainLoop fuel after buffer behind).map fun drained =>
            (drained.1.behind (piece, length), drained.2)
        | .rejected after error stays =>
          (slice buffer (if stays then consumed else behind)).map fun rest =>
            ({ state := after, verdict := .failed error, pieces := [(piece, length)] }, rest)
        | .refused after error =>
          some ({ state := after, verdict := .failed error, pieces := [(piece, length)] }, buffer)
        | .ended after =>
          some ({ state := after, verdict := .ended, pieces := [(piece, length)] }, [])

-- Every turn but the last moves the cursor, so there are fewer turns than elements.
def drain (state : σ) (buffer : List α) : Option (Progress α σ ε × List α) :=
  drainLoop next handle (buffer.length + 1) state buffer 0

variable (deliver : σ → σ)

/-- Each chunk is appended to the buffer and drained, and what came of it is delivered before the
next one is read. No chunk is read behind an error or the end. -/
def run : σ → List α → List (List α) → Option (Progress α σ ε)
  | state, _, [] => some { state }
  | state, buffer, chunk :: rest =>
    match drain next handle state (buffer ++ chunk) with
    | none => none
    | some (drained, left) =>
      match drained.verdict with
      | .goesOn => (run (deliver drained.state) left rest).map (·.after drained.pieces)
      | _ => some { drained with state := deliver drained.state }

def runToEnd (finish : σ → σ × Option ε) (state : σ) (chunks : List (List α)) :
    Option (Outcome α σ ε) :=
  (run next handle deliver state [] chunks).map
    (Progress.close fun state => (deliver (finish state).1, (finish state).2))

def handleAll : σ → List (List α × Nat) → Progress α σ ε
  | state, [] => { state }
  | state, (piece, length) :: rest =>
    match handle state piece length with
    | .next after => (handleAll after rest).behind (piece, length)
    | .rejected after error _ =>
      { state := after, verdict := .failed error, pieces := [(piece, length)] }
    | .refused after error =>
      { state := after, verdict := .failed error, pieces := [(piece, length)] }
    | .ended after => { state := after, verdict := .ended, pieces := [(piece, length)] }

def Along (property : σ → List α → Nat → Prop) : σ → List (List α × Nat) → Prop
  | _, [] => True
  | state, (piece, length) :: rest =>
    property state piece length ∧
      match handle state piece length with
      | .next after => Along property after rest
      | _ => True

def RunAlong (delimiter : Delimiter α) (property : σ → List α → Nat → Prop) :
    σ → List α → List (List α) → Prop
  | _, _, [] => True
  | state, buffer, chunk :: rest =>
    let pieces := (delimiter.split (buffer ++ chunk)).1
    Along handle property state pieces ∧
      ((handleAll handle state pieces).verdict = .goesOn →
        RunAlong delimiter property (deliver (handleAll handle state pieces).state)
          (delimiter.split (buffer ++ chunk)).2 rest)

instance decidableAlong (property : σ → List α → Nat → Prop)
    [∀ state piece length, Decidable (property state piece length)] :
    (state : σ) → (pieces : List (List α × Nat)) → Decidable (Along handle property state pieces)
  | _, [] => .isTrue trivial
  | state, (piece, length) :: rest =>
    match handled : handle state piece length with
    | .next after =>
      have := decidableAlong property after rest
      decidable_of_iff (property state piece length ∧ Along handle property after rest)
        (by simp [Along, handled])
    | .rejected .. => decidable_of_iff (property state piece length) (by simp [Along, handled])
    | .refused .. => decidable_of_iff (property state piece length) (by simp [Along, handled])
    | .ended _ => decidable_of_iff (property state piece length) (by simp [Along, handled])

instance decidableRunAlong [DecidableEq ε] (delimiter : Delimiter α)
    (property : σ → List α → Nat → Prop)
    [∀ state piece length, Decidable (property state piece length)] :
    (state : σ) → (buffer : List α) → (chunks : List (List α)) →
      Decidable (RunAlong handle deliver delimiter property state buffer chunks)
  | _, _, [] => .isTrue trivial
  | state, buffer, chunk :: rest =>
    have := decidableRunAlong delimiter property
      (deliver (handleAll handle state (delimiter.split (buffer ++ chunk)).1).state)
      (delimiter.split (buffer ++ chunk)).2 rest
    inferInstanceAs (Decidable (_ ∧ (_ → _)))

end Loop

section Pieces

variable {handle : σ → List α → Nat → Handled σ ε}

theorem handleAll_append (state : σ) (first second : List (List α × Nat)) :
    handleAll handle state (first ++ second) =
      match (handleAll handle state first).verdict with
      | .goesOn =>
        (handleAll handle (handleAll handle state first).state second).after
          (handleAll handle state first).pieces
      | _ => handleAll handle state first := by
  induction first generalizing state with
  | nil => simp [handleAll, Progress.after]
  | cons head rest ih =>
    obtain ⟨piece, length⟩ := head
    simp only [List.cons_append, handleAll]
    cases handle state piece length with
    | next after =>
      simp only [ih after, Progress.behind]
      split <;> simp [Progress.after]
    | rejected after error stays => rfl
    | refused after error => rfl
    | ended after => rfl

-- The pieces that are handled come first, and all of them are handled unless one stops the loop.
theorem handleAll_pieces (state : σ) (pieces : List (List α × Nat)) :
    (handleAll handle state pieces).pieces <+: pieces ∧
      ((handleAll handle state pieces).verdict = .goesOn →
        (handleAll handle state pieces).pieces = pieces) := by
  induction pieces generalizing state with
  | nil => simp [handleAll]
  | cons head rest ih =>
    obtain ⟨piece, length⟩ := head
    simp only [handleAll]
    cases handle state piece length with
    | next after =>
      obtain ⟨first, all⟩ := ih after
      exact ⟨by simpa [Progress.behind] using first, fun goesOn => by
        simp [Progress.behind, all goesOn]⟩
    | rejected after error stays => simp
    | refused after error => simp
    | ended after => simp

theorem close_pieces (finish : σ → σ × Option ε) (state : σ) (pieces : List (List α × Nat)) :
    ((handleAll handle state pieces).close finish).pieces <+: pieces ∧
      (((handleAll handle state pieces).close finish).stopped = false →
        ((handleAll handle state pieces).close finish).pieces = pieces) := by
  have handled := @handleAll_pieces _ _ _ handle state pieces
  unfold Progress.close
  split
  · next goesOn => exact ⟨handled.1, fun _ => handled.2 goesOn⟩
  · exact ⟨handled.1, fun unstopped => nomatch unstopped⟩
  · exact ⟨handled.1, fun unstopped => nomatch unstopped⟩

theorem along_append {property : σ → List α → Nat → Prop} {state : σ}
    {first second : List (List α × Nat)} :
    Along handle property state (first ++ second) ↔
      Along handle property state first ∧
        ((handleAll handle state first).verdict = .goesOn →
          Along handle property (handleAll handle state first).state second) := by
  induction first generalizing state with
  | nil => simp [Along, handleAll]
  | cons head rest ih =>
    obtain ⟨piece, length⟩ := head
    simp only [List.cons_append, Along, handleAll]
    cases handle state piece length with
    | next after => simp [ih, Progress.behind, and_assoc]
    | rejected after error stays => simp
    | refused after error => simp
    | ended after => simp

theorem along_of_forall {property : σ → List α → Nat → Prop}
    (always : ∀ state piece length, property state piece length) (state : σ)
    (pieces : List (List α × Nat)) : Along handle property state pieces := by
  induction pieces generalizing state with
  | nil => trivial
  | cons head rest ih =>
    refine ⟨always .., ?_⟩
    split
    · exact ih _
    · trivial

-- The first piece of which `property` fails.
theorem exists_of_not_along {property : σ → List α → Nat → Prop} {state : σ}
    {pieces : List (List α × Nat)} (broken : ¬ Along handle property state pieces) :
    ∃ before piece length later, pieces = before ++ (piece, length) :: later ∧
      Along handle property state before ∧ (handleAll handle state before).verdict = .goesOn ∧
      ¬ property (handleAll handle state before).state piece length := by
  induction pieces generalizing state with
  | nil => exact absurd trivial broken
  | cons head rest ih =>
    obtain ⟨piece, length⟩ := head
    by_cases here : property state piece length
    · cases handled : handle state piece length with
      | next after =>
        obtain ⟨before, found, size, later, rfl, along, goesOn, fails⟩ :=
          @ih after (by simpa [Along, here, handled] using broken)
        refine ⟨(piece, length) :: before, found, size, later, rfl, ?_, ?_, ?_⟩
        · simpa [Along, here, handled] using along
        · simpa [handleAll, handled, Progress.behind] using goesOn
        · simpa [handleAll, handled, Progress.behind] using fails
      | rejected after error stays => simp [Along, here, handled] at broken
      | refused after error => simp [Along, here, handled] at broken
      | ended after => simp [Along, here, handled] at broken
    · exact ⟨[], piece, length, rest, rfl, trivial, rfl, here⟩

end Pieces

section Drain

variable {delimiter : Delimiter α} {handle : σ → List α → Nat → Handled σ ε}

theorem drainLoop_eq (fuel : Nat) (state : σ) (buffer : List α) (consumed : Nat)
    (inside : consumed ≤ buffer.length) (enough : buffer.length - consumed < fuel) :
    ∃ left, drainLoop delimiter.cut handle fuel state buffer consumed =
        some (handleAll handle state (delimiter.split (buffer.drop consumed)).1, left) ∧
      ((handleAll handle state (delimiter.split (buffer.drop consumed)).1).verdict = .goesOn →
        left = (delimiter.split (buffer.drop consumed)).2) := by
  induction fuel generalizing state consumed with
  | zero => omega
  | succ fuel ih =>
    simp only [drainLoop, slice, if_pos inside]
    cases found : delimiter.cut (buffer.drop consumed) with
    | none => simp [Delimiter.split_of_none found, handleAll]
    | some cut =>
      obtain ⟨piece, length⟩ := cut
      have bound := Delimiter.cut_length found
      have size : (buffer.drop consumed).length = buffer.length - consumed := List.length_drop
      have within : consumed + (piece.length + length) ≤ buffer.length := by omega
      rw [Delimiter.split_of_some found, List.drop_drop]
      simp only [handleAll]
      cases handle state piece length with
      | next after =>
        obtain ⟨left, drained, same⟩ := ih after (consumed + (piece.length + length)) within
          (by omega)
        exact ⟨left, by simp [drained], same⟩
      | rejected after error stays =>
        cases stays <;> simp [inside, within]
      | refused after error => simp
      | ended after => simp

theorem drain_eq (state : σ) (buffer : List α) :
    ∃ left, drain delimiter.cut handle state buffer =
        some (handleAll handle state (delimiter.split buffer).1, left) ∧
      ((handleAll handle state (delimiter.split buffer).1).verdict = .goesOn →
        left = (delimiter.split buffer).2) := by
  simpa [drain] using
    @drainLoop_eq _ _ _ delimiter handle (buffer.length + 1) state buffer 0 (by omega) (by omega)

end Drain

section Chunks

variable {delimiter : Delimiter α} {handle : σ → List α → Nat → Handled σ ε} {deliver : σ → σ}

theorem run_cons (state : σ) (buffer chunk : List α) (rest : List (List α)) :
    run delimiter.cut handle deliver state buffer (chunk :: rest) =
      match (handleAll handle state (delimiter.split (buffer ++ chunk)).1).verdict with
      | .goesOn =>
        (run delimiter.cut handle deliver
          (deliver (handleAll handle state (delimiter.split (buffer ++ chunk)).1).state)
          (delimiter.split (buffer ++ chunk)).2 rest).map
            (·.after (handleAll handle state (delimiter.split (buffer ++ chunk)).1).pieces)
      | _ =>
        some { handleAll handle state (delimiter.split (buffer ++ chunk)).1 with
          state := deliver (handleAll handle state (delimiter.split (buffer ++ chunk)).1).state } := by
  obtain ⟨left, drained, same⟩ := @drain_eq _ _ _ delimiter handle state (buffer ++ chunk)
  simp only [run, drained]
  split
  · next goesOn => rw [same goesOn]
  · rfl

/-! ### Invariants of a run -/

def Handled.Leaves (going : σ → Prop) (stopped : σ → Option ε → Prop) : Handled σ ε → Prop
  | .next state => going state
  | .rejected state error _ => stopped state (some error)
  | .refused state error => stopped state (some error)
  | .ended state => stopped state none

def Progress.Leaves (going : σ → Prop) (stopped : σ → Option ε → Prop)
    (progress : Progress α σ ε) : Prop :=
  match progress.verdict with
  | .goesOn => going progress.state
  | .failed error => stopped progress.state (some error)
  | .ended => stopped progress.state none

variable {going : σ → Prop} {stopped : σ → Option ε → Prop} {property : σ → List α → Nat → Prop}

theorem handleAll_leaves
    (step : ∀ state piece length, going state → property state piece length →
      (handle state piece length).Leaves going stopped)
    {state : σ} {pieces : List (List α × Nat)} (start : going state)
    (along : Along handle property state pieces) :
    (handleAll handle state pieces).Leaves going stopped := by
  induction pieces generalizing state with
  | nil => exact start
  | cons head rest ih =>
    obtain ⟨piece, length⟩ := head
    obtain ⟨here, behind⟩ := along
    have left := step state piece length start here
    simp only [handleAll]
    revert left behind
    cases handle state piece length with
    | next after => exact fun behind left => ih left behind
    | rejected after error stays => exact fun _ left => left
    | refused after error => exact fun _ left => left
    | ended after => exact fun _ left => left

theorem run_leaves
    (step : ∀ state piece length, going state → property state piece length →
      (handle state piece length).Leaves going stopped)
    (deliverGoing : ∀ state, going state → going (deliver state))
    (deliverStopped : ∀ state error, stopped state error → stopped (deliver state) error)
    {state : σ} {buffer : List α} {chunks : List (List α)} (start : going state)
    (along : RunAlong handle deliver delimiter property state buffer chunks) :
    ∃ progress, run delimiter.cut handle deliver state buffer chunks = some progress ∧
      progress.Leaves going stopped := by
  induction chunks generalizing state buffer with
  | nil => exact ⟨_, rfl, start⟩
  | cons chunk rest ih =>
    obtain ⟨here, behind⟩ := along
    have left := handleAll_leaves step start here
    rw [run_cons]
    unfold Progress.Leaves at left
    cases verdict : (handleAll handle state (delimiter.split (buffer ++ chunk)).1).verdict with
    | goesOn =>
      rw [verdict] at left
      obtain ⟨progress, ran, later⟩ := ih (deliverGoing _ left) (behind verdict)
      exact ⟨_, congrArg (Option.map _) ran, later⟩
    | failed error =>
      rw [verdict] at left
      exact ⟨_, rfl, by simpa [Progress.Leaves, verdict] using deliverStopped _ _ left⟩
    | ended =>
      rw [verdict] at left
      exact ⟨_, rfl, by simpa [Progress.Leaves, verdict] using deliverStopped _ _ left⟩

/-! ### Runs that agree -/

inductive HandledAgree (related observed : σ → σ → Prop) : Handled σ ε → Handled σ ε → Prop
  | next {first second : σ} (states : related first second) :
    HandledAgree related observed (.next first) (.next second)
  | rejected {first second : σ} {error : ε} {stays : Bool} (states : observed first second) :
    HandledAgree related observed (.rejected first error stays) (.rejected second error stays)
  | refused {first second : σ} {error : ε} (states : observed first second) :
    HandledAgree related observed (.refused first error) (.refused second error)
  | ended {first second : σ} (states : observed first second) :
    HandledAgree related observed (.ended first) (.ended second)

theorem HandledAgree.of_map {related observed : σ → σ → Prop} {first second : σ → σ}
    (states : ∀ state, related (first state) (second state))
    (exits : ∀ state, observed (first state) (second state)) (handled : Handled σ ε) :
    HandledAgree related observed (handled.map first) (handled.map second) := by
  cases handled with
  | next state => exact .next (states state)
  | rejected state error stays => exact .rejected (exits state)
  | refused state error => exact .refused (exits state)
  | ended state => exact .ended (exits state)

structure Progress.Agree (related observed : σ → σ → Prop) (first second : Progress α σ ε) :
    Prop where
  verdict : first.verdict = second.verdict
  pieces : first.pieces = second.pieces
  related : second.verdict = .goesOn → related first.state second.state
  observed : second.verdict ≠ .goesOn → observed first.state second.state

variable {related observed : σ → σ → Prop}

theorem handleAll_agree
    (agree : ∀ first second piece length, related first second → property second piece length →
      HandledAgree related observed (handle first piece length) (handle second piece length))
    {first second : σ} {pieces : List (List α × Nat)} (states : related first second)
    (along : Along handle property second pieces) :
    (handleAll handle first pieces).Agree related observed (handleAll handle second pieces) := by
  induction pieces generalizing first second with
  | nil => exact ⟨rfl, rfl, fun _ => states, fun stopped => absurd rfl stopped⟩
  | cons head rest ih =>
    obtain ⟨piece, length⟩ := head
    obtain ⟨here, behind⟩ := along
    have handled := agree first second piece length states here
    simp only [handleAll]
    revert handled behind
    generalize handle first piece length = left
    generalize handle second piece length = right
    rintro behind handled
    cases handled with
    | next states =>
      obtain ⟨verdict, pieces, related, observed⟩ := ih states behind
      exact ⟨verdict, by simp [Progress.behind, pieces], related, observed⟩
    | rejected states => exact ⟨rfl, rfl, (nomatch ·), fun _ => states⟩
    | refused states => exact ⟨rfl, rfl, (nomatch ·), fun _ => states⟩
    | ended states => exact ⟨rfl, rfl, (nomatch ·), fun _ => states⟩

-- However the sequence is cut into chunks, the loop gets where the handler gets over its pieces.
theorem run_agree
    (agree : ∀ first second piece length, related first second → property second piece length →
      HandledAgree related observed (handle first piece length) (handle second piece length))
    (deliverRelated : ∀ first second, related first second → related (deliver first) second)
    (deliverObserved : ∀ first second, observed first second → observed (deliver first) second)
    {first second : σ} {buffer : List α} {chunks : List (List α)}
    (states : related first second) (uncut : delimiter.cut buffer = none)
    (along : Along handle property second (delimiter.split (buffer ++ chunks.flatten)).1) :
    ∃ progress, run delimiter.cut handle deliver first buffer chunks = some progress ∧
      progress.Agree related observed
        (handleAll handle second (delimiter.split (buffer ++ chunks.flatten)).1) := by
  induction chunks generalizing first second buffer with
  | nil =>
    refine ⟨_, rfl, ?_⟩
    simp only [List.flatten_nil, List.append_nil, Delimiter.split_of_none uncut]
    exact ⟨rfl, rfl, fun _ => states, fun stopped => absurd rfl stopped⟩
  | cons chunk rest ih =>
    rw [List.flatten_cons, ← List.append_assoc,
      Delimiter.split_append (buffer ++ chunk)] at along ⊢
    obtain ⟨here, behind⟩ := along_append.1 along
    have drained := handleAll_agree agree states here
    rw [run_cons, handleAll_append, drained.verdict]
    split
    · next goesOn =>
      obtain ⟨progress, ran, verdict, pieces, relatedStates, observedStates⟩ :=
        ih (deliverRelated _ _ (drained.related goesOn)) (Delimiter.cut_split_rest _)
          (behind goesOn)
      refine ⟨_, congrArg (Option.map _) ran, verdict, ?_, relatedStates, observedStates⟩
      simp [Progress.after, drained.pieces, pieces]
    · next stopped =>
      refine ⟨_, rfl, drained.verdict, drained.pieces, fun goesOn => absurd goesOn stopped, ?_⟩
      exact fun _ => deliverObserved _ _ (drained.observed stopped)

structure Outcome.Agree (observed : σ → σ → Prop) (first second : Outcome α σ ε) : Prop where
  error : first.error = second.error
  stopped : first.stopped = second.stopped
  pieces : first.pieces = second.pieces
  observed : observed first.state second.state

theorem runToEnd_agree {finish : σ → σ × Option ε}
    (agree : ∀ first second piece length, related first second → property second piece length →
      HandledAgree related observed (handle first piece length) (handle second piece length))
    (deliverRelated : ∀ first second, related first second → related (deliver first) second)
    (deliverObserved : ∀ first second, observed first second → observed (deliver first) second)
    (finishAgree : ∀ first second, related first second →
      (finish first).2 = (finish second).2 ∧ observed (finish first).1 (finish second).1)
    {first second : σ} {chunks : List (List α)} (states : related first second)
    (along : Along handle property second (delimiter.split chunks.flatten).1) :
    ∃ outcome, runToEnd delimiter.cut handle deliver finish first chunks = some outcome ∧
      outcome.Agree observed
        ((handleAll handle second (delimiter.split chunks.flatten).1).close finish) := by
  obtain ⟨progress, ran, verdict, pieces, relatedStates, observedStates⟩ :=
    @run_agree _ _ _ delimiter handle deliver property related observed agree deliverRelated
      deliverObserved first second [] chunks states rfl (by simpa using along)
  rw [List.nil_append] at verdict pieces relatedStates observedStates
  refine ⟨_, congrArg (Option.map _) ran, ?_⟩
  unfold Progress.close
  rw [verdict]
  cases reached : (handleAll handle second (delimiter.split chunks.flatten).1).verdict with
  | goesOn =>
    obtain ⟨error, states⟩ := finishAgree _ _ (relatedStates reached)
    exact ⟨error, rfl, pieces, deliverObserved _ _ states⟩
  | failed error => exact ⟨rfl, rfl, pieces, observedStates (by simp [reached])⟩
  | ended => exact ⟨rfl, rfl, pieces, observedStates (by simp [reached])⟩

end Chunks

end FrameLoop

end ChatGateway
