import ChatGateway.Stream.Forwarding
import ChatGateway.Stream.SseAgreement

set_option autoImplicit false

/-!
# Forwarding and the chunks of the upstream

What a forwarded stream does must depend on the bytes of the upstream only, not on how the network
cut them.
-/

namespace ChatGateway

structure Forwarded where
  bytes : List UInt8
  usage : Option TokenUsage
  responseHistoryStored : Bool
  error : Option GatewayError
  stopped : Bool
  frames : List (List UInt8 × Nat)
deriving DecidableEq

variable {settings : ForwardSettings}

namespace ProxiedStreamState

def output (state : ProxiedStreamState) : List UInt8 :=
  state.trace.received ++ state.pending.flatten

def outcome (forwarded : FrameLoop.Outcome UInt8 ProxiedStreamState GatewayError) : Forwarded where
  bytes := forwarded.state.output
  usage := forwarded.state.usage
  responseHistoryStored := forwarded.state.responseHistoryStored
  error := forwarded.error
  stopped := forwarded.stopped
  frames := forwarded.pieces

def forward (settings : ForwardSettings) (state : ProxiedStreamState)
    (chunks : List (List UInt8)) : Option Forwarded :=
  (FrameLoop.runToEnd nextSseFrame (handleFrame settings) (deliverPending ∘ mergePending)
    (finishStream settings · .eof) state chunks).map outcome

def behind (received : List UInt8) (frames : List (List UInt8)) (state : ProxiedStreamState) :
    ProxiedStreamState :=
  { state with
    pending := frames ++ state.pending
    trace := { state.trace with received } }

variable {received : List UInt8} {frames : List (List UInt8)}

theorem pushFrame_behind (state : ProxiedStreamState) (bytes : List UInt8) :
    (state.behind received frames).pushFrame bytes =
      (state.pushFrame bytes).behind received frames := by
  simp [pushFrame, behind]

theorem observeEvent_behind (state : ProxiedStreamState) (event : Json) :
    (state.behind received frames).observeEvent settings event =
      (state.observeEvent settings event).behind received frames := by
  simp only [observeEvent, behind, endpoint]
  by_cases offering : (!state.responseHistoryStored && settings.keepsHistory) = true
  · simp only [offering, if_true]
    rfl
  · simp only [offering]
    rfl

theorem forwardEvents_behind (frame : List UInt8) (delimiterLength : Nat) (changed : Bool)
    (error : GatewayError) (state : ProxiedStreamState) (events : List Json) :
    forwardEvents settings frame delimiterLength changed error (state.behind received frames)
        events =
      ((forwardEvents settings frame delimiterLength changed error state events).1.behind received
          frames,
        (forwardEvents settings frame delimiterLength changed error state events).2) := by
  induction events generalizing state with
  | nil => rfl
  | cons event rest ih =>
    have written : ((state.observeEvent settings event).behind received frames).eventFrame settings
        frame delimiterLength changed event =
        (state.observeEvent settings event).eventFrame settings frame delimiterLength changed
          event := rfl
    simp only [forwardEvents, observeEvent_behind, written]
    split
    · rfl
    · exact ih _
    · rw [pushFrame_behind]
      exact ih _

theorem finishEvents_behind (state : ProxiedStreamState) (events : List Json) :
    (state.behind received frames).finishEvents settings events =
      (state.finishEvents settings events).behind received frames := by
  induction events generalizing state with
  | nil => rfl
  | cons event rest ih =>
    have first : (state.behind received frames).pushLastEvent settings event =
        (state.pushLastEvent settings event).behind received frames := by
      simp only [pushLastEvent, behind, List.append_assoc]
      rfl
    simp only [finishEvents, List.foldl_cons] at ih ⊢
    rw [first, ih]

theorem finishStream_behind (state : ProxiedStreamState) (streamEnd : StreamEnd) :
    (state.behind received frames).finishStream settings streamEnd =
      ((state.finishStream settings streamEnd).1.behind received frames,
        (state.finishStream settings streamEnd).2) := by
  have taken : ({ state.behind received frames with canonicalizer := none } : ProxiedStreamState) =
      ({ state with canonicalizer := none } : ProxiedStreamState).behind received frames := rfl
  unfold finishStream
  rw [taken, show (state.behind received frames).finished = state.finished from rfl,
    show (state.behind received frames).canonicalizer = state.canonicalizer from rfl,
    show (state.behind received frames).usage = state.usage from rfl,
    show (state.behind received frames).usableOutputSeen = state.usableOutputSeen from rfl,
    show (state.behind received frames).rewriteResponsesEvents = state.rewriteResponsesEvents from
      rfl,
    show (state.behind received frames).semanticTerminalEmitted = state.semanticTerminalEmitted from
      rfl]
  split
  · rfl
  · split
    · split <;> rfl
    · dsimp only
      split
      · split <;> rfl
      · rw [finishEvents_behind, pushFrame_behind]
        rfl

theorem finishDone_behind (state : ProxiedStreamState) (rawFrame : List UInt8) :
    (state.behind received frames).finishDone settings rawFrame =
      ((state.finishDone settings rawFrame).1.behind received frames,
        (state.finishDone settings rawFrame).2) := by
  unfold finishDone
  rw [finishStream_behind,
    show (state.behind received frames).rewriteResponsesEvents = state.rewriteResponsesEvents from
      rfl]
  obtain ⟨finished, _ | error⟩ := state.finishStream settings .done
  · dsimp only
    split
    · rw [pushFrame_behind]
    · rfl
  · rfl

theorem handleEvent_behind (state : ProxiedStreamState) (frame : List UInt8)
    (delimiterLength : Nat) (error : GatewayError) (event : Json) :
    (state.behind received frames).handleEvent settings frame delimiterLength error event =
      ((state.handleEvent settings frame delimiterLength error event).1.behind received frames,
        (state.handleEvent settings frame delimiterLength error event).2) := by
  unfold handleEvent
  split
  · rfl
  · have metered : ∀ normalized rewritten,
        (state.behind received frames).meterEvent normalized rewritten =
          (state.meterEvent normalized rewritten).behind received frames := fun _ _ => rfl
    rw [show (state.behind received frames).canonicalizer = state.canonicalizer from rfl,
      show (state.behind received frames).rewriteResponsesEvents =
        state.rewriteResponsesEvents from rfl]
    dsimp only
    simp only [metered]
    split
    · exact forwardEvents_behind ..
    · split
      · rfl
      · next pushed events _ =>
        exact forwardEvents_behind frame delimiterLength _ error
          { state.meterEvent _ _ with canonicalizer := some pushed } events

theorem handleMalformed_behind (state : ProxiedStreamState) (payload : Text)
    (error : GatewayError) :
    (state.behind received frames).handleMalformed settings payload error =
      (state.handleMalformed settings payload error).map (behind received frames) := by
  unfold handleMalformed
  rw [show (state.behind received frames).usableOutputExposed = state.usableOutputExposed from rfl,
    show (state.behind received frames).commitTracker = state.commitTracker from rfl,
    show (state.behind received frames).counters = state.counters from rfl]
  dsimp only
  split
  · rfl
  · split <;> rfl

theorem handleFrame_behind (state : ProxiedStreamState) (frame : List UInt8)
    (delimiterLength : Nat) :
    (state.behind received frames).handleFrame settings frame delimiterLength =
      (state.handleFrame settings frame delimiterLength).map (behind received frames) := by
  have counted : ({ state.behind received frames with
        counters := (state.behind received frames).counters.receive frame delimiterLength } :
        ProxiedStreamState) =
      ({ state with counters := state.counters.receive frame delimiterLength } :
        ProxiedStreamState).behind received frames := rfl
  unfold handleFrame
  rw [counted, show (state.behind received frames).counters = state.counters from rfl,
    show (state.behind received frames).canonicalizer = state.canonicalizer from rfl,
    show (state.behind received frames).rewriteResponsesEvents = state.rewriteResponsesEvents from
      rfl]
  dsimp only
  split
  · rfl
  · rfl
  · split
    · rw [pushFrame_behind]
      rfl
    · rfl
  · rfl
  · rw [finishDone_behind, FrameLoop.Handled.ofEnd_map]
  · exact handleMalformed_behind ..
  · rw [handleEvent_behind, FrameLoop.Handled.ofStep_map]

def bare (state : ProxiedStreamState) : ProxiedStreamState :=
  { state with pending := [], trace := { state.trace with received := [] } }

theorem eq_behind (state : ProxiedStreamState) :
    state = state.bare.behind state.trace.received state.pending := by
  simp [bare, behind]

structure Alike (first second : ProxiedStreamState) : Prop where
  bare : first.bare = second.bare
  output : first.output = second.output

theorem Alike.behind {first second : ProxiedStreamState} (alike : Alike first second)
    (state : ProxiedStreamState) :
    Alike (state.behind first.trace.received first.pending)
      (state.behind second.trace.received second.pending) where
  bare := rfl
  output := by
    have same := alike.output
    simp only [ProxiedStreamState.output] at same
    simp only [ProxiedStreamState.output, ProxiedStreamState.behind, List.flatten_append]
    rw [← List.append_assoc, same, List.append_assoc]

theorem Alike.handleFrame {first second : ProxiedStreamState} (alike : Alike first second)
    (frame : List UInt8) (delimiterLength : Nat) :
    FrameLoop.HandledAgree Alike Alike (first.handleFrame settings frame delimiterLength)
      (second.handleFrame settings frame delimiterLength) := by
  rw [eq_behind first, eq_behind second, alike.bare, handleFrame_behind, handleFrame_behind]
  exact .of_map alike.behind alike.behind _

theorem Alike.finishStream {first second : ProxiedStreamState} (alike : Alike first second)
    (streamEnd : StreamEnd) :
    (first.finishStream settings streamEnd).2 = (second.finishStream settings streamEnd).2 ∧
      Alike (first.finishStream settings streamEnd).1 (second.finishStream settings streamEnd).1 := by
  rw [eq_behind first, eq_behind second, alike.bare, finishStream_behind, finishStream_behind]
  exact ⟨rfl, alike.behind _⟩

theorem Alike.deliver {first second : ProxiedStreamState} (alike : Alike first second) :
    Alike (deliverPending (mergePending first)) second where
  bare := by
    rw [← alike.bare, mergePending]
    split <;> rfl
  output := by
    rw [← alike.output, mergePending]
    split <;> simp [deliverPending, ProxiedStreamState.output]

theorem forward_eq (state : ProxiedStreamState) (chunks : List (List UInt8)) :
    state.forward settings chunks =
      some (outcome ((FrameLoop.handleAll (handleFrame settings) state
        (sseDelimiter.split chunks.flatten).1).close (finishStream settings · .eof))) := by
  obtain ⟨forwarded, ran, error, stopped, pieces, alike⟩ :=
    @FrameLoop.runToEnd_agree _ _ _ sseDelimiter (handleFrame settings)
      (deliverPending ∘ mergePending) (fun _ _ _ => True) Alike Alike (finishStream settings · .eof)
      (fun _ _ frame length alike _ => alike.handleFrame frame length)
      (fun _ _ alike => alike.deliver) (fun _ _ alike => alike.deliver)
      (fun _ _ alike => alike.finishStream .eof) state state chunks ⟨rfl, rfl⟩
      (FrameLoop.along_of_forall (fun _ _ _ => trivial) _ _)
  have usage := congrArg ProxiedStreamState.usage alike.bare
  have stored := congrArg ProxiedStreamState.responseHistoryStored alike.bare
  rw [forward, funext nextSseFrame_eq, ran, Option.map_some, outcome, error, stopped, pieces,
    alike.output]
  exact congrArg some (by simp only [outcome, bare] at usage stored ⊢; rw [usage, stored])

end ProxiedStreamState

namespace TranslatedStreamState

def output (state : TranslatedStreamState) : List UInt8 :=
  state.trace.received ++ state.pending.flatMap (·.bytes)

def outcome (forwarded : FrameLoop.Outcome UInt8 TranslatedStreamState GatewayError) :
    Forwarded where
  bytes := forwarded.state.output
  usage := forwarded.state.usage
  responseHistoryStored := forwarded.state.responseHistoryStored
  error := forwarded.error
  stopped := forwarded.stopped
  frames := forwarded.pieces

def forward (settings : ForwardSettings) (state : TranslatedStreamState)
    (chunks : List (List UInt8)) : Option Forwarded :=
  (FrameLoop.runToEnd nextSseFrame (handleFrame settings) deliverPending
    (finishStream settings · .eof) state chunks).map outcome

def behind (received : List UInt8) (frames : List TranslatedPendingFrame) (delivered : Bool)
    (state : TranslatedStreamState) : TranslatedStreamState :=
  { state with
    pending := frames ++ state.pending
    usableOutputDelivered := delivered
    trace := { state.trace with received } }

variable {received : List UInt8} {frames : List TranslatedPendingFrame} {delivered : Bool}

theorem pushFrame_behind (state : TranslatedStreamState) (bytes : List UInt8) :
    (state.behind received frames delivered).pushFrame bytes =
      (state.pushFrame bytes).behind received frames delivered := by
  simp [pushFrame, behind]

theorem pushTranslated_behind (state : TranslatedStreamState) (translated : List Json) :
    (state.behind received frames delivered).pushTranslated settings translated =
      (state.pushTranslated settings translated).behind received frames delivered := by
  induction translated generalizing state with
  | nil => rfl
  | cons event rest ih =>
    have first : (state.behind received frames delivered).pushTranslatedEvent settings event =
        (state.pushTranslatedEvent settings event).behind received frames delivered := by
      simp [pushTranslatedEvent, behind]
    simp only [pushTranslated, List.foldl_cons] at ih ⊢
    rw [first, ih]

theorem observeTranslated_behind (state : TranslatedStreamState) (translated : List Json) :
    (state.behind received frames delivered).observeTranslated settings translated =
      (state.observeTranslated settings translated).behind received frames delivered := by
  unfold observeTranslated
  rw [show (state.behind received frames delivered).responseHistoryStored =
    state.responseHistoryStored from rfl]
  dsimp only
  split <;> rfl

theorem forwardEvents_behind (state : TranslatedStreamState) (events : List Json) :
    (state.behind received frames delivered).forwardEvents settings events =
      ((state.forwardEvents settings events).1.behind received frames delivered,
        (state.forwardEvents settings events).2) := by
  induction events generalizing state with
  | nil => rfl
  | cons event rest ih =>
    simp only [forwardEvents]
    rw [show (state.behind received frames delivered).translator = state.translator from rfl]
    split
    · rfl
    · next translator translated _ =>
      rw [show ({ state.behind received frames delivered with translator } :
          TranslatedStreamState) =
        ({ state with translator } : TranslatedStreamState).behind received frames delivered from
          rfl, observeTranslated_behind, pushTranslated_behind]
      exact ih _

theorem forwardLastEvents_behind (state : TranslatedStreamState) (events : List Json) :
    (state.behind received frames delivered).forwardLastEvents settings events =
      ((state.forwardLastEvents settings events).1.behind received frames delivered,
        (state.forwardLastEvents settings events).2) := by
  induction events generalizing state with
  | nil => rfl
  | cons event rest ih =>
    simp only [forwardLastEvents]
    rw [show (state.behind received frames delivered).translator = state.translator from rfl]
    split
    · rfl
    · next translator translated _ =>
      rw [show ({ state.behind received frames delivered with translator } :
          TranslatedStreamState) =
        ({ state with translator } : TranslatedStreamState).behind received frames delivered from
          rfl, pushTranslated_behind]
      exact ih _

theorem finishTranslator_behind (state : TranslatedStreamState) :
    (state.behind received frames delivered).finishTranslator settings =
      ((state.finishTranslator settings).1.behind received frames delivered,
        (state.finishTranslator settings).2) := by
  unfold finishTranslator
  rw [show (state.behind received frames delivered).translator = state.translator from rfl]
  split
  · rfl
  · next translator translated _ =>
    rw [show ({ state.behind received frames delivered with translator } :
        TranslatedStreamState) =
      ({ state with translator } : TranslatedStreamState).behind received frames delivered from
        rfl, observeTranslated_behind]
    dsimp only
    rw [pushTranslated_behind, pushFrame_behind]
    rfl

theorem finishStream_behind (state : TranslatedStreamState) (streamEnd : StreamEnd) :
    (state.behind received frames delivered).finishStream settings streamEnd =
      ((state.finishStream settings streamEnd).1.behind received frames delivered,
        (state.finishStream settings streamEnd).2) := by
  unfold finishStream
  rw [show ({ state.behind received frames delivered with canonicalizer := none } :
      TranslatedStreamState) =
    ({ state with canonicalizer := none } : TranslatedStreamState).behind received frames
      delivered from rfl,
    show (state.behind received frames delivered).finished = state.finished from rfl,
    show (state.behind received frames delivered).canonicalizer = state.canonicalizer from rfl,
    show (state.behind received frames delivered).usage = state.usage from rfl,
    show (state.behind received frames delivered).usableOutputObserved =
      state.usableOutputObserved from rfl]
  split
  · rfl
  · split
    · exact finishTranslator_behind state
    · dsimp only
      split
      · split <;> rfl
      · next events _ =>
        rw [forwardLastEvents_behind]
        obtain ⟨forwarded, _ | error⟩ := ({ state with canonicalizer := none } :
          TranslatedStreamState).forwardLastEvents settings events
        · exact finishTranslator_behind forwarded
        · rfl

theorem handleEvent_behind (state : TranslatedStreamState) (event : Json) :
    (state.behind received frames delivered).handleEvent settings event =
      ((state.handleEvent settings event).1.behind received frames delivered,
        (state.handleEvent settings event).2) := by
  unfold handleEvent
  split
  · rfl
  · rw [show ({ state.behind received frames delivered with
          usage := (streamUsageFromValue event).or
            (state.behind received frames delivered).usage } : TranslatedStreamState) =
        ({ state with usage := (streamUsageFromValue event).or state.usage } :
          TranslatedStreamState).behind received frames delivered from rfl]
    dsimp only
    rw [show ∀ other : TranslatedStreamState,
      (other.behind received frames delivered).canonicalizer = other.canonicalizer from
        fun _ => rfl]
    dsimp only
    split
    · exact forwardEvents_behind ..
    · split
      · rfl
      · next pushed events _ =>
        exact forwardEvents_behind
          { state with
            usage := (streamUsageFromValue event).or state.usage
            canonicalizer := some pushed } events

theorem handleFrame_behind (state : TranslatedStreamState) (frame : List UInt8)
    (delimiterLength : Nat)
    (wellFormed : ∀ payload, frameContent settings.codec frame ≠ .malformed payload) :
    (state.behind received frames delivered).handleFrame settings frame delimiterLength =
      (state.handleFrame settings frame delimiterLength).map
        (behind received frames delivered) := by
  have counted : ({ state.behind received frames delivered with
        counters := (state.behind received frames delivered).counters.receive frame
          delimiterLength } : TranslatedStreamState) =
      ({ state with counters := state.counters.receive frame delimiterLength } :
        TranslatedStreamState).behind received frames delivered := rfl
  unfold handleFrame
  rw [counted, show (state.behind received frames delivered).counters = state.counters from rfl]
  dsimp only
  split
  · rfl
  · rfl
  · split
    · rw [pushFrame_behind]
      rfl
    · rfl
  · rfl
  · rw [finishStream_behind, FrameLoop.Handled.ofEnd_map]
  · next payload malformed => exact absurd malformed (wellFormed payload)
  · rw [handleEvent_behind, FrameLoop.Handled.ofStep_map]

/-! ### Usable output is either delivered or pending -/

def Shown (state : TranslatedStreamState) : Prop :=
  state.usableOutputObserved =
    (state.usableOutputDelivered || state.pending.any (·.usableOutput))

theorem Shown.pushFrame {state : TranslatedStreamState} (shown : state.Shown) (bytes : List UInt8) :
    (state.pushFrame bytes).Shown := by
  simpa [Shown, TranslatedStreamState.pushFrame] using shown

theorem Shown.pushTranslated {state : TranslatedStreamState} (shown : state.Shown)
    (translated : List Json) : (state.pushTranslated settings translated).Shown := by
  induction translated generalizing state with
  | nil => exact shown
  | cons event rest ih =>
    have first : (state.pushTranslatedEvent settings event).Shown := by
      unfold Shown at shown
      simp [Shown, pushTranslatedEvent, shown, Bool.or_assoc]
    exact ih first

theorem Shown.observeTranslated {state : TranslatedStreamState} (shown : state.Shown)
    (translated : List Json) : (state.observeTranslated settings translated).Shown := by
  unfold TranslatedStreamState.observeTranslated
  dsimp only
  split <;> exact shown

theorem Shown.forwardEvents {state : TranslatedStreamState} (shown : state.Shown)
    (events : List Json) : (state.forwardEvents settings events).1.Shown := by
  induction events generalizing state with
  | nil => exact shown
  | cons event rest ih =>
    rw [TranslatedStreamState.forwardEvents]
    split
    · exact shown
    · next translator translated _ =>
      have translating : ({ state with translator } : TranslatedStreamState).Shown := shown
      exact ih ((translating.observeTranslated translated).pushTranslated translated)

theorem Shown.handleEvent {state : TranslatedStreamState} (shown : state.Shown) (event : Json) :
    (state.handleEvent settings event).1.Shown := by
  unfold TranslatedStreamState.handleEvent
  split
  · exact shown
  · dsimp only
    split
    · exact @Shown.forwardEvents settings
        { state with usage := (streamUsageFromValue event).or state.usage } shown [event]
    · split
      · exact shown
      · next pushed events _ =>
        exact @Shown.forwardEvents settings
          { state with
            usage := (streamUsageFromValue event).or state.usage
            canonicalizer := some pushed } shown events

theorem Shown.deliverPending {state : TranslatedStreamState} (shown : state.Shown) :
    state.deliverPending.Shown := by
  simpa [Shown, TranslatedStreamState.deliverPending] using shown

theorem handleFrame_shown {state after : TranslatedStreamState} (shown : state.Shown)
    {frame : List UInt8} {delimiterLength : Nat}
    (next : state.handleFrame settings frame delimiterLength = .next after) : after.Shown := by
  have counted : ({ state with counters := state.counters.receive frame delimiterLength } :
      TranslatedStreamState).Shown := shown
  unfold handleFrame at next
  dsimp only at next
  split at next
  · cases next
  · cases next
  · split at next <;> cases next
    · exact counted.pushFrame _
    · exact counted
  · cases next
    exact counted
  · revert next
    generalize finishStream settings _ .done = result
    obtain ⟨finished, _ | error⟩ := result <;> exact fun next => nomatch next
  · unfold handleMalformed at next
    dsimp only at next
    split at next
    · cases next
    · split at next <;> cases next
      exact counted
  · next event _ =>
    have handled := @Shown.handleEvent settings _ counted event
    revert next handled
    generalize TranslatedStreamState.handleEvent settings _ event = result
    obtain ⟨forwarded, _ | error⟩ := result
    · rintro ⟨⟩ shown
      exact shown
    · exact fun next => nomatch next

/-! ### Streams that differ in what has been delivered -/

def bare (state : TranslatedStreamState) : TranslatedStreamState :=
  { state with
    pending := []
    usableOutputDelivered := false
    trace := { state.trace with received := [] } }

theorem eq_behind (state : TranslatedStreamState) :
    state =
      state.bare.behind state.trace.received state.pending state.usableOutputDelivered := by
  simp [bare, behind]

structure SeenAlike (first second : TranslatedStreamState) : Prop where
  output : first.output = second.output
  usage : first.usage = second.usage
  stored : first.responseHistoryStored = second.responseHistoryStored

structure Alike (first second : TranslatedStreamState) : Prop where
  bare : first.bare = second.bare
  output : first.output = second.output
  firstShown : first.Shown
  secondShown : second.Shown

theorem Alike.seen {first second : TranslatedStreamState} (alike : Alike first second) :
    SeenAlike first second where
  output := alike.output
  usage := (congrArg TranslatedStreamState.usage alike.bare :)
  stored := (congrArg TranslatedStreamState.responseHistoryStored alike.bare :)

theorem output_behind {first second : TranslatedStreamState} (same : first.output = second.output)
    (state : TranslatedStreamState) :
    (state.behind first.trace.received first.pending first.usableOutputDelivered).output =
      (state.behind second.trace.received second.pending second.usableOutputDelivered).output := by
  simp only [output] at same
  simp only [output, behind, List.flatMap_append]
  rw [← List.append_assoc, same, List.append_assoc]

/-- A malformed frame is skipped or not whatever has been delivered: semantic output decides, or
there is no usable output, or no more frame may be skipped. -/
def SkipDecided (settings : ForwardSettings) (state : TranslatedStreamState) (frame : List UInt8)
    (_ : Nat) : Prop :=
  ∀ payload, frameContent settings.codec frame = .malformed payload →
    ¬ (state.usableOutputObserved = true ∧ state.commitTracker.semanticOutputObserved = false ∧
      state.counters.sseBadFramesSkipped < settings.maxSkippedBadFrames)

theorem handleMalformed_agree {first second : TranslatedStreamState} (alike : Alike first second)
    (payload : Text) (error : GatewayError)
    (decided : ¬ (second.usableOutputObserved = true ∧
      second.commitTracker.semanticOutputObserved = false ∧
      second.counters.sseBadFramesSkipped < settings.maxSkippedBadFrames)) :
    FrameLoop.HandledAgree Alike SeenAlike (first.handleMalformed settings payload error)
      (second.handleMalformed settings payload error) := by
  have observed : first.usableOutputObserved = second.usableOutputObserved :=
    (congrArg TranslatedStreamState.usableOutputObserved alike.bare :)
  have tracker : first.commitTracker = second.commitTracker :=
    (congrArg TranslatedStreamState.commitTracker alike.bare :)
  have counters : first.counters = second.counters :=
    (congrArg TranslatedStreamState.counters alike.bare :)
  have skippedSeen : ∀ firstCounters secondCounters,
      SeenAlike { first with counters := firstCounters }
        { second with counters := secondCounters } :=
    fun _ _ => ⟨alike.seen.output, alike.seen.usage, alike.seen.stored⟩
  cases semantic : second.commitTracker.semanticOutputObserved with
  | true =>
    -- Both skip the frame, or both have skipped enough.
    have firstSemantic : first.commitTracker.semanticOutputObserved = true := by
      rw [tracker, semantic]
    simp only [handleMalformed, counters, firstSemantic, semantic, Bool.not_true, Bool.and_false,
      Bool.false_eq_true, if_false]
    split
    · exact .rejected (skippedSeen _ _)
    · refine .next ⟨?_, alike.output, alike.firstShown, alike.secondShown⟩
      have same := congrArg
        (fun state : TranslatedStreamState =>
          { state with counters := second.counters.skip payload }) alike.bare
      exact same
  | false =>
    cases usable : second.usableOutputObserved with
    | false =>
      -- Nothing can have been delivered, so that both fail.
      have nothing : ∀ state : TranslatedStreamState, state.Shown →
          state.usableOutputObserved = false → state.usableOutputDelivered = false := by
        intro state shown none
        unfold Shown at shown
        rw [none] at shown
        exact (Bool.or_eq_false_iff.1 shown.symm).1
      have firstNone := nothing first alike.firstShown (observed.trans usable)
      have secondNone := nothing second alike.secondShown usable
      simp only [handleMalformed, usableOutputExposed, firstNone, secondNone, tracker, semantic,
        Bool.not_false, Bool.and_self, if_true]
      exact .rejected alike.seen
    | true =>
      -- One more frame is too many, so that both fail with or without counting it.
      have enough : settings.maxSkippedBadFrames < second.counters.sseBadFramesSkipped + 1 := by
        by_contra more
        exact decided ⟨usable, semantic, by omega⟩
      have fails : ∀ state : TranslatedStreamState, state.counters = second.counters →
          ∃ after, state.handleMalformed settings payload error = .rejected after error false ∧
            (after = state ∨ after = { state with counters := state.counters.skip payload }) := by
        intro state same
        unfold handleMalformed
        dsimp only
        split
        · exact ⟨state, rfl, .inl rfl⟩
        · rw [if_pos (by rw [same]; exact enough)]
          exact ⟨_, rfl, .inr rfl⟩
      obtain ⟨afterFirst, firstFails, firstState⟩ := fails first counters
      obtain ⟨afterSecond, secondFails, secondState⟩ := fails second rfl
      rw [firstFails, secondFails]
      refine .rejected ⟨?_, ?_, ?_⟩
      · rcases firstState with rfl | rfl <;> rcases secondState with rfl | rfl <;>
          exact alike.output
      · rcases firstState with rfl | rfl <;> rcases secondState with rfl | rfl <;>
          exact alike.seen.usage
      · rcases firstState with rfl | rfl <;> rcases secondState with rfl | rfl <;>
          exact alike.seen.stored

theorem Alike.handleFrame {first second : TranslatedStreamState} (alike : Alike first second)
    {frame : List UInt8} {delimiterLength : Nat}
    (decided : SkipDecided settings second frame delimiterLength) :
    FrameLoop.HandledAgree Alike SeenAlike (first.handleFrame settings frame delimiterLength)
      (second.handleFrame settings frame delimiterLength) := by
  by_cases malformed : ∃ payload, frameContent settings.codec frame = .malformed payload
  · obtain ⟨payload, found⟩ := malformed
    have counters : first.counters = second.counters :=
      (congrArg TranslatedStreamState.counters alike.bare :)
    have counted : Alike
        { first with counters := second.counters.receive frame delimiterLength }
        { second with counters := second.counters.receive frame delimiterLength } :=
      ⟨(congrArg (fun state : TranslatedStreamState =>
          { state with counters := second.counters.receive frame delimiterLength }) alike.bare :),
        alike.output, alike.firstShown, alike.secondShown⟩
    simp only [TranslatedStreamState.handleFrame, found, counters]
    exact handleMalformed_agree counted payload _ (decided payload found)
  · have wellFormed : ∀ payload, frameContent settings.codec frame ≠ .malformed payload :=
      fun payload found => malformed ⟨payload, found⟩
    have firstEq := @handleFrame_behind settings first.trace.received first.pending
      first.usableOutputDelivered second.bare frame delimiterLength wellFormed
    have secondEq := @handleFrame_behind settings second.trace.received second.pending
      second.usableOutputDelivered second.bare frame delimiterLength wellFormed
    rw [← alike.bare, ← eq_behind, alike.bare] at firstEq
    rw [← eq_behind] at secondEq
    have output := output_behind alike.output
    cases handled : second.bare.handleFrame settings frame delimiterLength with
    | next after =>
      rw [handled] at firstEq secondEq
      have firstShown := handleFrame_shown alike.firstShown firstEq
      have secondShown := handleFrame_shown alike.secondShown secondEq
      rw [firstEq, secondEq]
      exact .next ⟨rfl, output after, firstShown, secondShown⟩
    | rejected after error stays =>
      rw [firstEq, secondEq, handled]
      exact .rejected ⟨output after, rfl, rfl⟩
    | refused after error =>
      rw [firstEq, secondEq, handled]
      exact .refused ⟨output after, rfl, rfl⟩
    | ended after =>
      rw [firstEq, secondEq, handled]
      exact .ended ⟨output after, rfl, rfl⟩

theorem output_deliverPending (state : TranslatedStreamState) :
    state.deliverPending.output = state.output := by
  simp [deliverPending, output]

theorem Alike.deliver {first second : TranslatedStreamState} (alike : Alike first second) :
    Alike first.deliverPending second :=
  ⟨alike.bare, (output_deliverPending first).trans alike.output, alike.firstShown.deliverPending,
    alike.secondShown⟩

theorem SeenAlike.deliver {first second : TranslatedStreamState} (seen : SeenAlike first second) :
    SeenAlike first.deliverPending second :=
  ⟨(output_deliverPending first).trans seen.output, seen.usage, seen.stored⟩

theorem Alike.finishStream {first second : TranslatedStreamState} (alike : Alike first second)
    (streamEnd : StreamEnd) :
    (first.finishStream settings streamEnd).2 = (second.finishStream settings streamEnd).2 ∧
      SeenAlike (first.finishStream settings streamEnd).1
        (second.finishStream settings streamEnd).1 := by
  rw [eq_behind first, eq_behind second, alike.bare, finishStream_behind, finishStream_behind]
  exact ⟨rfl, output_behind alike.output _, rfl, rfl⟩

-- Where every skip is decided, the frames one after another decide what is forwarded.
theorem forward_eq {state : TranslatedStreamState} (shown : state.Shown)
    {chunks : List (List UInt8)}
    (decided : FrameLoop.Along (handleFrame settings) (SkipDecided settings) state
      (sseDelimiter.split chunks.flatten).1) :
    state.forward settings chunks =
      some (outcome ((FrameLoop.handleAll (handleFrame settings) state
        (sseDelimiter.split chunks.flatten).1).close (finishStream settings · .eof))) := by
  obtain ⟨forwarded, ran, error, stopped, pieces, seen⟩ :=
    @FrameLoop.runToEnd_agree _ _ _ sseDelimiter (handleFrame settings) deliverPending
      (SkipDecided settings) Alike SeenAlike (finishStream settings · .eof)
      (fun _ _ _ _ alike decided => alike.handleFrame decided)
      (fun _ _ alike => alike.deliver) (fun _ _ seen => seen.deliver)
      (fun _ _ alike => alike.finishStream .eof) state state chunks ⟨rfl, rfl, shown, shown⟩ decided
  rw [forward, funext nextSseFrame_eq, ran, Option.map_some, outcome, error, stopped, pieces,
    seen.output, seen.usage, seen.stored]
  rfl

/-! ### A skip that is not decided -/

def errorFrame : GatewayError → Option Nat
  | .sseDecode _ _ frameSeq _ _ => some frameSeq
  | _ => none

theorem errorFrame_protocolErrorToGateway (error : ProtocolError) :
    errorFrame (protocolErrorToGateway error) = none := by
  cases error with
  | invalidUpstreamStream kind message => cases kind <;> rfl
  | _ => rfl

/-- The errors that do not name one of the first `count` frames. -/
def ErrorBehind (count : Nat) (error : Option GatewayError) : Prop :=
  ∀ frameSeq, error.bind errorFrame = some frameSeq → count ≤ frameSeq

theorem ErrorBehind.of_none {count : Nat} {error : Option GatewayError}
    (none : error.bind errorFrame = none) : ErrorBehind count error := by
  intro frameSeq named
  simp [none] at named

theorem forwardEvents_error (state : TranslatedStreamState) (events : List Json) :
    (state.forwardEvents settings events).2.bind errorFrame = none := by
  induction events generalizing state with
  | nil => rfl
  | cons event rest ih =>
    rw [forwardEvents]
    split
    · rfl
    · exact ih _

theorem forwardLastEvents_error (state : TranslatedStreamState) (events : List Json) :
    (state.forwardLastEvents settings events).2.bind errorFrame = none := by
  induction events generalizing state with
  | nil => rfl
  | cons event rest ih =>
    rw [forwardLastEvents]
    split
    · rfl
    · exact ih _

theorem handleEvent_error (state : TranslatedStreamState) (event : Json) :
    (state.handleEvent settings event).2.bind errorFrame = none := by
  unfold handleEvent
  split
  · exact errorFrame_protocolErrorToGateway _
  · dsimp only
    split
    · exact forwardEvents_error _ _
    · split
      · exact errorFrame_protocolErrorToGateway _
      · exact forwardEvents_error _ _

theorem finishTranslator_error (state : TranslatedStreamState) :
    (state.finishTranslator settings).2.bind errorFrame = none := by
  unfold finishTranslator
  split <;> rfl

theorem finishStream_error (state : TranslatedStreamState) (streamEnd : StreamEnd) :
    (state.finishStream settings streamEnd).2.bind errorFrame = none := by
  unfold finishStream
  split
  · rfl
  · split
    · exact finishTranslator_error state
    · dsimp only
      split
      · split
        · rfl
        · exact errorFrame_protocolErrorToGateway _
      · next events _ =>
        have last := @forwardLastEvents_error settings { state with canonicalizer := none } events
        split
        · next forwarded error isForwarded =>
          rw [isForwarded] at last
          exact last
        · exact finishTranslator_error _

structure SameCounts (first second : TranslatedStreamState) : Prop where
  counters : first.counters = second.counters
  delivered : first.usableOutputDelivered = second.usableOutputDelivered

theorem SameCounts.trans {first second third : TranslatedStreamState}
    (left : SameCounts first second) (right : SameCounts second third) : SameCounts first third :=
  ⟨left.counters.trans right.counters, left.delivered.trans right.delivered⟩

theorem pushTranslated_counts (state : TranslatedStreamState) (translated : List Json) :
    SameCounts (state.pushTranslated settings translated) state := by
  induction translated generalizing state with
  | nil => exact ⟨rfl, rfl⟩
  | cons event rest ih =>
    exact (ih (state.pushTranslatedEvent settings event)).trans ⟨rfl, rfl⟩

theorem forwardEvents_counts (state : TranslatedStreamState) (events : List Json) :
    SameCounts (state.forwardEvents settings events).1 state := by
  induction events generalizing state with
  | nil => exact ⟨rfl, rfl⟩
  | cons event rest ih =>
    rw [forwardEvents]
    split
    · exact ⟨rfl, rfl⟩
    · next translator translated _ =>
      refine (ih _).trans ((pushTranslated_counts _ _).trans ?_)
      unfold observeTranslated
      dsimp only
      split <;> exact ⟨rfl, rfl⟩

theorem handleEvent_counts (state : TranslatedStreamState) (event : Json) :
    SameCounts (state.handleEvent settings event).1 state := by
  unfold handleEvent
  split
  · exact ⟨rfl, rfl⟩
  · dsimp only
    split
    · exact (forwardEvents_counts _ _).trans ⟨rfl, rfl⟩
    · split
      · exact ⟨rfl, rfl⟩
      · exact (forwardEvents_counts _ _).trans ⟨rfl, rfl⟩

-- Each frame is counted, nothing is delivered and an error names a frame not counted before.
theorem handleFrame_counts (state : TranslatedStreamState) (frame : List UInt8)
    (delimiterLength : Nat) :
    (state.handleFrame settings frame delimiterLength).Leaves
      (fun after => after.counters.framesReceived = state.counters.framesReceived + 1 ∧
        after.usableOutputDelivered = state.usableOutputDelivered)
      (fun _ error => ErrorBehind state.counters.framesReceived error) := by
  unfold handleFrame
  dsimp only
  split
  · exact .of_none (errorFrame_protocolErrorToGateway _)
  · rintro frameSeq ⟨⟩
    exact le_rfl
  · split <;> exact ⟨rfl, rfl⟩
  · exact ⟨rfl, rfl⟩
  · have finished := @finishStream_error settings
      { state with counters := state.counters.receive frame delimiterLength } .done
    revert finished
    generalize finishStream settings _ .done = result
    obtain ⟨finished, _ | error⟩ := result <;> exact .of_none
  · next payload _ =>
    have named : ErrorBehind state.counters.framesReceived (some (settings.decodeError .invalidJson
        state.counters.framesReceived state.counters.bytesConsumed payload.utf8)) := by
      rintro frameSeq ⟨⟩
      exact le_rfl
    unfold handleMalformed
    dsimp only
    split
    · exact named
    · split
      · exact named
      · exact ⟨rfl, rfl⟩
  · next event _ =>
    have errors := @handleEvent_error settings
      { state with counters := state.counters.receive frame delimiterLength } event
    have counts := @handleEvent_counts settings
      { state with counters := state.counters.receive frame delimiterLength } event
    revert errors counts
    generalize handleEvent settings _ event = result
    obtain ⟨forwarded, _ | error⟩ := result
    · exact fun _ counts => ⟨by rw [counts.counters]; rfl, counts.delivered⟩
    · exact fun errors _ => .of_none errors

theorem handleAll_undelivered {state : TranslatedStreamState} (shown : state.Shown)
    (undelivered : state.usableOutputDelivered = false) (pieces : List (List UInt8 × Nat))
    (goesOn : (FrameLoop.handleAll (handleFrame settings) state pieces).verdict = .goesOn) :
    (FrameLoop.handleAll (handleFrame settings) state pieces).state.Shown ∧
      (FrameLoop.handleAll (handleFrame settings) state pieces).state.usableOutputDelivered =
        false := by
  have step : ∀ (state : TranslatedStreamState) frame length,
      state.Shown ∧ state.usableOutputDelivered = false → True →
      (state.handleFrame settings frame length).Leaves
        (fun state => state.Shown ∧ state.usableOutputDelivered = false) fun _ _ => True := by
    rintro state frame length ⟨shown, undelivered⟩ -
    have counts := @handleFrame_counts settings state frame length
    cases handled : state.handleFrame settings frame length with
    | next after =>
      rw [handled] at counts
      exact ⟨handleFrame_shown shown handled, counts.2.trans undelivered⟩
    | rejected after error stays => trivial
    | refused after error => trivial
    | ended after => trivial
  have left := FrameLoop.handleAll_leaves step ⟨shown, undelivered⟩
    (FrameLoop.along_of_forall (fun _ _ _ => trivial) state pieces)
  rwa [FrameLoop.Progress.Leaves, goesOn] at left

-- The errors of the frames behind the first `count` ones.
theorem handleAll_errorBehind {count : Nat} {state : TranslatedStreamState}
    (counted : count ≤ state.counters.framesReceived) (pieces : List (List UInt8 × Nat)) :
    ErrorBehind count ((FrameLoop.handleAll (handleFrame settings) state pieces).close
      fun state => ((state.finishStream settings .eof).1.deliverPending,
        (state.finishStream settings .eof).2)).error := by
  have step : ∀ (state : TranslatedStreamState) frame length,
      count ≤ state.counters.framesReceived → True →
      (state.handleFrame settings frame length).Leaves
        (fun state => count ≤ state.counters.framesReceived) fun _ error =>
          ErrorBehind count error := by
    rintro state frame length counted -
    have counts := @handleFrame_counts settings state frame length
    cases handled : state.handleFrame settings frame length with
    | next after =>
      rw [handled] at counts
      show count ≤ after.counters.framesReceived
      rw [counts.1]
      omega
    | rejected after error stays =>
      rw [handled] at counts
      exact fun frameSeq named => counted.trans (counts frameSeq named)
    | refused after error =>
      rw [handled] at counts
      exact fun frameSeq named => counted.trans (counts frameSeq named)
    | ended after => exact .of_none rfl
  have left := FrameLoop.handleAll_leaves step counted
    (FrameLoop.along_of_forall (fun _ _ _ => trivial) state pieces)
  unfold FrameLoop.Progress.Leaves at left
  unfold FrameLoop.Progress.close
  cases verdict : (FrameLoop.handleAll (handleFrame settings) state pieces).verdict with
  | goesOn => exact .of_none (finishStream_error _ _)
  | failed error =>
    rw [verdict] at left
    exact left
  | ended => exact .of_none rfl

-- The frame is rejected behind undelivered output and skipped behind delivered output.
theorem undecided_skip {state : TranslatedStreamState} (shown : state.Shown)
    (undelivered : state.usableOutputDelivered = false) {frame : List UInt8}
    {delimiterLength : Nat} (undecided : ¬ SkipDecided settings state frame delimiterLength) :
    (∃ after error, state.handleFrame settings frame delimiterLength =
        .rejected after error false ∧ errorFrame error = some state.counters.framesReceived) ∧
      ∃ after, state.deliverPending.handleFrame settings frame delimiterLength = .next after := by
  simp only [SkipDecided, not_forall, not_not] at undecided
  obtain ⟨payload, malformed, usable, unsemantic, fewer⟩ := undecided
  constructor
  · simp only [handleFrame, malformed, handleMalformed, usableOutputExposed, undelivered,
      unsemantic, Bool.not_false, Bool.and_self, if_true]
    exact ⟨_, _, rfl, rfl⟩
  · have delivered : state.deliverPending.usableOutputDelivered = true := by
      unfold Shown at shown
      rw [usable] at shown
      exact shown.symm
    simp only [handleFrame, malformed, handleMalformed, usableOutputExposed, delivered,
      Bool.not_true, Bool.false_and, Bool.false_eq_true, if_false]
    rw [if_neg]
    · exact ⟨_, rfl⟩
    · simp only [FrameCounters.skip, FrameCounters.receive, deliverPending]
      omega

theorem forward_ne_of_undecided {state : TranslatedStreamState} (shown : state.Shown)
    (undelivered : state.usableOutputDelivered = false) {bytes : List UInt8}
    (undecided : ¬ FrameLoop.Along (handleFrame settings) (SkipDecided settings) state
      (sseDelimiter.split bytes).1) :
    ∃ first second, bytes = first ++ second ∧
      state.forward settings [bytes] ≠ state.forward settings [first, second] := by
  obtain ⟨before, piece, length, later, pieces, -, goesOn, here⟩ :=
    FrameLoop.exists_of_not_along undecided
  obtain ⟨first, second, parted, firstSplit, secondPieces⟩ := Delimiter.split_between pieces
  obtain ⟨shownHere, undeliveredHere⟩ := handleAll_undelivered shown undelivered before goesOn
  obtain ⟨⟨after, error, rejected, named⟩, skipped, skips⟩ :=
    undecided_skip shownHere undeliveredHere here
  have counts := @handleFrame_counts settings
    (FrameLoop.handleAll (handleFrame settings) state before).state.deliverPending piece length
  rw [skips] at counts
  refine ⟨first, second, parted, fun same => ?_⟩
  -- In one chunk the frame is an error that names it.
  have whole : (state.forward settings [bytes]).bind (·.error) = some error := by
    have stops : FrameLoop.handleAll (handleFrame settings) state (sseDelimiter.split bytes).1 =
        { state := after, verdict := .failed error,
          pieces := (FrameLoop.handleAll (handleFrame settings) state before).pieces ++
            [(piece, length)] } := by
      rw [pieces, FrameLoop.handleAll_append, goesOn]
      simp [FrameLoop.handleAll, rejected, FrameLoop.Progress.after]
    rw [forward, FrameLoop.runToEnd, funext nextSseFrame_eq, FrameLoop.run_cons, List.nil_append,
      stops]
    rfl
  -- In two chunks it is skipped, and every error that follows is about a later frame.
  have parts : ErrorBehind
      ((FrameLoop.handleAll (handleFrame settings) state before).state.counters.framesReceived + 1)
      ((state.forward settings [first, second]).bind (·.error)) := by
    have goes : FrameLoop.handleAll (handleFrame settings)
        (FrameLoop.handleAll (handleFrame settings) state before).state.deliverPending
          (sseDelimiter.split second).1 =
        (FrameLoop.handleAll (handleFrame settings) skipped later).behind (piece, length) := by
      rw [secondPieces, FrameLoop.handleAll, skips]
    have counted : (FrameLoop.handleAll (handleFrame settings) state
        before).state.counters.framesReceived + 1 ≤ skipped.counters.framesReceived := counts.1.ge
    have errors := @handleAll_errorBehind settings _ skipped counted later
    rw [forward, FrameLoop.runToEnd, funext nextSseFrame_eq, FrameLoop.run_cons, List.nil_append,
      firstSplit, goesOn]
    dsimp only
    rw [FrameLoop.run_cons, List.nil_append, goes]
    unfold FrameLoop.Progress.close at errors
    cases verdict : (FrameLoop.handleAll (handleFrame settings) skipped later).verdict with
    | goesOn =>
      refine .of_none ?_
      simp only [FrameLoop.Progress.behind, FrameLoop.Progress.after, FrameLoop.Progress.close,
        verdict, outcome, FrameLoop.run, Option.map_some, Option.bind_some]
      exact finishStream_error _ _
    | failed error =>
      rw [verdict] at errors
      simpa [FrameLoop.Progress.behind, FrameLoop.Progress.after, FrameLoop.Progress.close,
        verdict, outcome] using errors
    | ended =>
      refine .of_none ?_
      simp [FrameLoop.Progress.behind, FrameLoop.Progress.after, FrameLoop.Progress.close,
        verdict, outcome]
  rw [← same, whole] at parts
  have later := parts _ named
  omega

end TranslatedStreamState

inductive ForwardedStream where
  | proxied (endpoint : EndpointKind) (id model : String) (created : Nat)
    (commitTracker : StreamCommitTracker)
  | translated (translator : StreamTranslator) (canonicalizer : Option ChatStreamCanonicalizer)
    (commitTracker : StreamCommitTracker)

namespace ForwardedStream

def forward (settings : ForwardSettings) (stream : ForwardedStream) (chunks : List (List UInt8)) :
    Option Forwarded :=
  match stream with
  | proxied endpoint id model created commitTracker =>
    ProxiedStreamState.forward settings
      { canonicalizer := if endpoint = .chatCompletions then some { id, model, created } else none
        rewriteResponsesEvents := endpoint = .responses
        commitTracker }
      chunks
  | translated translator canonicalizer commitTracker =>
    TranslatedStreamState.forward settings { translator, canonicalizer, commitTracker } chunks

/-- However the bytes are cut into chunks, no slice lies outside the buffer, the outside sees the
same and each complete frame is consumed once, up to the one that stops the stream. -/
structure IndependentOfChunks (settings : ForwardSettings) (stream : ForwardedStream)
    (bytes : List UInt8) : Prop where
  inside : ∀ chunks, chunks.flatten = bytes → stream.forward settings chunks ≠ none
  same : ∀ chunks others, chunks.flatten = bytes → others.flatten = bytes →
    stream.forward settings chunks = stream.forward settings others
  consumed : ∀ chunks forwarded, chunks.flatten = bytes →
    stream.forward settings chunks = some forwarded →
    forwarded.frames <+: (sseDelimiter.split bytes).1 ∧
      (forwarded.stopped = false → forwarded.frames = (sseDelimiter.split bytes).1)

/-- On a translated stream every malformed frame is met before any usable output, behind semantic
output, or when no more frame may be skipped. -/
def SkipsDecided (settings : ForwardSettings) (stream : ForwardedStream) (bytes : List UInt8) :
    Prop :=
  match stream with
  | proxied .. => True
  | translated translator canonicalizer commitTracker =>
    FrameLoop.Along (TranslatedStreamState.handleFrame settings)
      (TranslatedStreamState.SkipDecided settings) { translator, canonicalizer, commitTracker }
      (sseDelimiter.split bytes).1

theorem independentOfChunks_of_eq {stream : ForwardedStream} {bytes : List UInt8}
    {forwarded : Forwarded}
    (always : ∀ chunks, chunks.flatten = bytes → stream.forward settings chunks = some forwarded)
    (frames : forwarded.frames <+: (sseDelimiter.split bytes).1 ∧
      (forwarded.stopped = false → forwarded.frames = (sseDelimiter.split bytes).1)) :
    stream.IndependentOfChunks settings bytes where
  inside chunks whole := by simp [always chunks whole]
  same chunks others whole otherWhole := by rw [always chunks whole, always others otherWhole]
  consumed chunks other whole result := by
    rw [always chunks whole] at result
    obtain rfl := Option.some.inj result
    exact frames

end ForwardedStream

theorem forwarding_independent_of_chunks_iff (settings : ForwardSettings)
    (stream : ForwardedStream) (bytes : List UInt8) :
    stream.IndependentOfChunks settings bytes ↔ stream.SkipsDecided settings bytes := by
  cases stream with
  | proxied endpoint id model created commitTracker =>
    refine ⟨fun _ => trivial, fun _ => ?_⟩
    have always : ∀ chunks, chunks.flatten = bytes →
        (ForwardedStream.proxied endpoint id model created commitTracker).forward settings chunks =
        some (ProxiedStreamState.outcome
          ((FrameLoop.handleAll (ProxiedStreamState.handleFrame settings)
            { canonicalizer :=
                if endpoint = .chatCompletions then some { id, model, created } else none
              rewriteResponsesEvents := endpoint = .responses
              commitTracker } (sseDelimiter.split bytes).1).close
                (ProxiedStreamState.finishStream settings · .eof))) := by
      rintro chunks rfl
      exact ProxiedStreamState.forward_eq _ chunks
    exact ForwardedStream.independentOfChunks_of_eq always (FrameLoop.close_pieces _ _ _)
  | translated translator canonicalizer commitTracker =>
    have shown : TranslatedStreamState.Shown { translator, canonicalizer, commitTracker } := rfl
    constructor
    · intro independent
      by_contra undecided
      obtain ⟨first, second, rfl, different⟩ :=
        TranslatedStreamState.forward_ne_of_undecided shown rfl undecided
      exact different (independent.same [first ++ second] [first, second] (by simp) (by simp))
    · intro decided
      have always : ∀ chunks, chunks.flatten = bytes →
          (ForwardedStream.translated translator canonicalizer commitTracker).forward settings
            chunks =
          some (TranslatedStreamState.outcome
            ((FrameLoop.handleAll (TranslatedStreamState.handleFrame settings)
              { translator, canonicalizer, commitTracker } (sseDelimiter.split bytes).1).close
                (TranslatedStreamState.finishStream settings · .eof))) := by
        rintro chunks rfl
        exact TranslatedStreamState.forward_eq shown decided
      exact ForwardedStream.independentOfChunks_of_eq always (FrameLoop.close_pieces _ _ _)

def reasoningChunk : Json :=
  .object [("choices", .array [.object [("index", .ofNat 0),
    ("delta", .object [("reasoning_content", .string "Hm")])]])]

def reasoningFrame : List UInt8 :=
  Text.utf8 ("data: ".toList ++ serdePrint reasoningChunk ++ "\n\n".toList)

def malformedFrame : List UInt8 :=
  Text.utf8 "data: oops\n\n".toList

def reasoningSettings : ForwardSettings where
  codec := serdeCodec fun text =>
    if text = String.ofList (serdePrint reasoningChunk) then [some reasoningChunk] else [none]
  endpoint := .responses
  splitDecodeCode := true
  maxSkippedBadFrames := 3
  keepsHistory := true
  responseStamp := ⟨"resp_1", "rs_1", "msg_1", fun _ => "call_1", 0⟩
  chatStamp := ⟨"chatcmpl-1", 0⟩
  downstreamResponseId := "resp_2"

def reasoningStream : ForwardedStream :=
  .translated (.chatToResponses {}) (some { id := "chatcmpl-1", model := "model", created := 0 }) {}

-- Reasoning is usable output but no semantic one, so that only its delivery saves the stream.
theorem malformed_frame_depends_on_chunks :
    ¬ reasoningStream.IndependentOfChunks reasoningSettings (reasoningFrame ++ malformedFrame) := by
  intro independent
  have same := independent.same [reasoningFrame ++ malformedFrame] [reasoningFrame, malformedFrame]
    (by simp) (by simp)
  have whole : (reasoningStream.forward reasoningSettings
      [reasoningFrame ++ malformedFrame]).map (·.error.isSome) = some true := by
    decide +kernel
  have parts : (reasoningStream.forward reasoningSettings
      [reasoningFrame, malformedFrame]).map (·.error.isSome) = some false := by
    decide +kernel
  rw [same, parts] at whole
  cases whole

end ChatGateway
