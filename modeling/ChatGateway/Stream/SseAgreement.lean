import ChatGateway.Stream.SseReaders

set_option autoImplicit false

/-!
# When the two SSE readers agree

Both readers cut a stream at the same places. They part over the rest that no blank line ends,
over frames that name an event without data or end in a bare `data` line with a carriage return,
and over the sizes only the decoder limits.
-/

namespace ChatGateway

theorem nextSseFrame_eq (bytes : List UInt8) : nextSseFrame bytes = sseDelimiter.cut bytes := by
  induction bytes with
  | nil => rfl
  | cons byte rest ih =>
    rw [nextSseFrame, Delimiter.cut, ih]
    by_cases feed : byte = lineFeed
    · subst feed
      rcases rest with _ | ⟨second, rest⟩
      · simp [sseDelimiter, sseDelimiterLength]
      · by_cases same : second = lineFeed <;>
          simp [sseDelimiter, sseDelimiterLength_feed, same]
    · by_cases returned : byte = carriageReturn
      · subst returned
        by_cases whole : [lineFeed, carriageReturn, lineFeed] <+: rest <;>
          simp [sseDelimiter, sseDelimiterLength_return, whole]
      · simp [sseDelimiter, feed, returned, sseDelimiterLength_cons_of_plain]

-- A data line is one whose field is `data`.
theorem dataLine_eq (line : Text) :
    dataLine line =
      if (line.splitOnce ':').1 = "data".toList then
        some ((line.splitOnce ':').2.stripPrefix ' ')
      else none := by
  rcases Text.splitOnce_cases ':' line with ⟨missing, same⟩ | ⟨field, value, missing, rfl, same⟩
  · have unmatched : line.dropPrefix? "data:".toList = none := by
      cases found : line.dropPrefix? "data:".toList with
      | none => rfl
      | some rest =>
        obtain ⟨front, rfl, matched⟩ := List.dropPrefix?_eq_some_iff.1 found
        obtain rfl : front = "data:".toList := by simpa using matched
        simp at missing
    rw [same, dataLine, unmatched]
    rfl
  · have colon : field ++ ':' :: value ≠ "data".toList := by
      intro plain
      have member : ':' ∈ field ++ ':' :: value := by simp
      rw [plain] at member
      simp at member
    rw [same, dataLine, if_neg colon]
    by_cases named : field = "data".toList
    · subst named
      have matched : ("data".toList ++ ':' :: value).dropPrefix? "data:".toList = some value :=
        List.dropPrefix?_eq_some_iff.2 ⟨"data:".toList, by simp, by simp⟩
      rw [matched, if_pos rfl]
      rfl
    · rw [if_neg named, Option.map_eq_none_iff]
      cases found : (field ++ ':' :: value).dropPrefix? "data:".toList with
      | none => rfl
      | some rest =>
        obtain ⟨front, split, matched⟩ := List.dropPrefix?_eq_some_iff.1 found
        obtain rfl : front = "data:".toList := by simpa using matched
        have other := Text.splitOnce_of_append rest (show ':' ∉ "data".toList by simp)
        rw [show "data".toList ++ ':' :: rest = "data:".toList ++ rest by simp, ← split, same]
          at other
        exact absurd (congrArg Prod.fst other) named

-- A carriage return at the end of a line stays in its payload, and hides a bare `data`.
theorem dataLine_concat {line : Text} (named : line ≠ "data".toList) :
    dataLine (line ++ ['\r']) = (dataLine line).map (· ++ ['\r']) := by
  rw [dataLine_eq, dataLine_eq]
  rcases Text.splitOnce_cases ':' line with ⟨missing, same⟩ | ⟨field, value, missing, rfl, same⟩
  · have longer : ':' ∉ line ++ ['\r'] := by simpa using missing
    have other : line ++ ['\r'] ≠ "data".toList := by
      intro plain
      have ends := congrArg List.getLast? plain
      simp at ends
    rw [same, Text.splitOnce_of_missing longer, if_neg other, if_neg named]
    rfl
  · rw [same, List.append_assoc, List.cons_append, Text.splitOnce_of_append _ missing]
    split
    · simp [Text.stripPrefix_concat]
    · rfl

theorem SseFields.readLine_eq (fields : SseFields) (rawLine : Text) :
    fields.readLine rawLine =
      { eventType := readEventName fields.eventType rawLine
        dataLines := fields.dataLines ++ (dataLine (rawLine.stripSuffix '\r')).toList } := by
  simp only [readLine, readEventName, dataLine_eq]
  generalize rawLine.stripSuffix '\r' = line
  by_cases skipped : (line.isEmpty || decide (line.head? = some ':')) = true
  · have field : (line.splitOnce ':').1 = [] := by
      cases line with
      | nil => rfl
      | cons head rest =>
        obtain rfl : head = ':' := by simpa using skipped
        simp [Text.splitOnce]
    rw [if_pos skipped, field]
    simp
  · rw [if_neg skipped]
    by_cases event : (line.splitOnce ':').1 = "event".toList
    · simp [event]
    · by_cases data : (line.splitOnce ':').1 = "data".toList
      · simp [data]
      · rw [if_neg event, if_neg data, if_neg event, if_neg data]
        simp

def eventName (text : Text) : Option Text :=
  (text.splitOn '\n').foldl readEventName none

def decodedData (text : Text) : List Text :=
  (text.splitOn '\n').filterMap fun line => dataLine (Text.stripSuffix '\r' line)

def forwardedData (text : Text) : List Text :=
  text.lines.filterMap dataLine

theorem readLines_eq (pieces : List Text) (fields : SseFields) :
    pieces.foldl SseFields.readLine fields =
      { eventType := pieces.foldl readEventName fields.eventType
        dataLines := fields.dataLines ++
          pieces.filterMap fun line => dataLine (Text.stripSuffix '\r' line) } := by
  induction pieces generalizing fields with
  | nil => simp
  | cons line rest ih =>
    rw [List.foldl_cons, SseFields.readLine_eq, ih]
    cases found : dataLine (Text.stripSuffix '\r' line) <;> simp [found]

theorem parseSseEvent_utf8 (text : Text) :
    parseSseEvent text.utf8 =
      if (decodedData text).isEmpty && (eventName text).isNone then .ok none
      else
        .ok (some { eventType := eventName text, data := Text.join ['\n'] (decodedData text) }) := by
  simp only [parseSseEvent, Text.fromUtf8_utf8, readLines_eq, List.nil_append]
  rfl

theorem data_cases (text : Text) :
    ∃ first last, (text.splitOn '\n').getLast? = some last ∧
      decodedData text = first ++ (dataLine (Text.stripSuffix '\r' last)).toList ∧
      forwardedData text = first ++ (dataLine last).toList := by
  obtain ⟨init, last, split⟩ : ∃ init last, text.splitOn '\n' = init ++ [last] :=
    ⟨_, _, (List.dropLast_concat_getLast (List.splitOn_ne_nil '\n' text)).symm⟩
  refine ⟨init.filterMap fun line => dataLine (Text.stripSuffix '\r' line), last, by simp [split], ?_, ?_⟩
  · simp [decodedData, split, List.filterMap_append, List.filterMap_cons]
    cases dataLine (Text.stripSuffix '\r' last) <;> rfl
  · cases last with
    | nil =>
      have blank : dataLine [] = none := by decide
      simp [forwardedData, Text.lines, split, List.filterMap_map, blank, Option.filter_some]
    | cons head rest =>
      simp [forwardedData, Text.lines, split, List.filterMap_map, Option.filter_some,
        List.filterMap_cons]
      cases dataLine (head :: rest) <;> rfl

/-- A frame both readers read alike: it has data if it names an event, and its last line is not a
bare `data` that a carriage return hides from the forwarding path. -/
structure FrameAlike (text : Text) : Prop where
  named : eventName text = none ∨ forwardedData text ≠ []
  ended : (text.splitOn '\n').getLast? ≠ some "data\r".toList

def readDecoded (frame : List UInt8) : Option SseReading :=
  match parseSseEvent frame with
  | .error error => some (.refused error)
  | .ok event => event.map SseEvent.reading

theorem readForwarded_utf8 (text : Text) :
    readForwarded text.utf8 =
      if isErrorEvent (eventName text) then some .failure
      else if (forwardedData text).isEmpty then none
      else some (.payload (Text.join ['\n'] (forwardedData text))) := by
  simp only [readForwarded, namedUpstreamSseFailure, parseSseDataPayload, Text.fromUtf8_utf8]
  by_cases failing : isErrorEvent (eventName text) = true
  · have named : isErrorEvent ((text.splitOn '\n').foldl readEventName none) = true := failing
    simp [failing, named]
  · have named : ¬ isErrorEvent ((text.splitOn '\n').foldl readEventName none) = true := failing
    rw [if_neg failing, if_neg named]
    by_cases blank : (forwardedData text).isEmpty = true
    · have lines : (text.lines.filterMap dataLine).isEmpty = true := blank
      simp [blank, lines]
    · have lines : ¬ (text.lines.filterMap dataLine).isEmpty = true := blank
      rw [if_neg lines, if_neg blank]
      rfl

theorem readDecoded_utf8 (text : Text) :
    readDecoded text.utf8 =
      if (decodedData text).isEmpty && (eventName text).isNone then none
      else if isErrorEvent (eventName text) then some .failure
      else some (.payload (Text.join ['\n'] (decodedData text))) := by
  rw [readDecoded, parseSseEvent_utf8]
  split
  · next blank =>
    split at blank
    · cases blank
    · cases blank
  · next event parsed =>
    split at parsed
    · next blank =>
      obtain rfl := Except.ok.inj parsed
      rw [if_pos blank]
      rfl
    · next present =>
      obtain rfl := Except.ok.inj parsed
      rw [if_neg present]
      simp only [Option.map_some, SseEvent.reading]
      split <;> rfl

theorem readForwarded_failing {text : Text} (failing : isErrorEvent (eventName text)) :
    readForwarded text.utf8 = some .failure ∧ readDecoded text.utf8 = some .failure := by
  have named : (eventName text).isNone = false := by
    cases found : eventName text with
    | none => simp [found, isErrorEvent] at failing
    | some name => rfl
  rw [readForwarded_utf8, readDecoded_utf8, if_pos failing, named]
  simp [failing]

-- Without a hidden `data` line the readers have the same data lines, up to a carriage return at
-- the end of the last one.
theorem data_alike {text : Text} (ended : (text.splitOn '\n').getLast? ≠ some "data\r".toList) :
    forwardedData text = decodedData text ∨
      ∃ first last, decodedData text = first ++ [last] ∧
        forwardedData text = first ++ [last ++ ['\r']] := by
  obtain ⟨first, last, lastLine, decoded, forwarded⟩ := data_cases text
  rw [decoded, forwarded]
  rcases Text.stripSuffix_cases '\r' last with same | split
  · rw [same]
    exact .inl rfl
  · have visible : Text.stripSuffix '\r' last ≠ "data".toList := by
      intro hidden
      rw [hidden] at split
      exact ended (by rw [lastLine, split]; rfl)
    rw [split, Text.stripSuffix_concat, dataLine_concat visible]
    cases dataLine (Text.stripSuffix '\r' last) with
    | none => exact .inl rfl
    | some value => exact .inr ⟨first, value, rfl, rfl⟩

theorem frame_alike {text : Text} (alike : FrameAlike text)
    (unfailing : isErrorEvent (eventName text) = false) :
    (readForwarded text.utf8 = none ∧ readDecoded text.utf8 = none) ∨
      ∃ forwarded decoded, readForwarded text.utf8 = some (.payload forwarded) ∧
        readDecoded text.utf8 = some (.payload decoded) ∧
        SseReading.Agrees (.payload forwarded) (.payload decoded) := by
  have blankTogether : forwardedData text = [] ↔ decodedData text = [] := by
    rcases data_alike alike.ended with same | ⟨first, last, decoded, forwarded⟩
    · rw [same]
    · simp [decoded, forwarded]
  rw [readForwarded_utf8, readDecoded_utf8, unfailing]
  by_cases blank : forwardedData text = []
  · have unnamed : eventName text = none := alike.named.resolve_right (by simp [blank])
    exact .inl ⟨by simp [blank], by simp [blankTogether.1 blank, unnamed]⟩
  · have present : decodedData text ≠ [] := fun none => blank (blankTogether.2 none)
    refine .inr ⟨Text.join ['\n'] (forwardedData text), Text.join ['\n'] (decodedData text),
      by simp [blank], by simp [present], ?_⟩
    rcases data_alike alike.ended with same | ⟨first, last, decoded, forwarded⟩
    · exact .inl (by rw [same])
    · exact .inr (by rw [decoded, forwarded, Text.join_concat_append])

-- In any other frame the decoder reads something the forwarding path does not read so.
theorem frame_unlike {text : Text} (unlike : ¬ FrameAlike text)
    (unfailing : isErrorEvent (eventName text) = false) :
    ∃ decoded, readDecoded text.utf8 = some (.payload decoded) ∧
      (readForwarded text.utf8 = none ∨
        ∃ forwarded, readForwarded text.utf8 = some (.payload forwarded) ∧
          ¬ SseReading.Agrees (.payload forwarded) (.payload decoded)) := by
  rw [readForwarded_utf8, readDecoded_utf8, unfailing]
  by_cases ended : (text.splitOn '\n').getLast? = some "data\r".toList
  · obtain ⟨first, last, lastLine, decoded, forwarded⟩ := data_cases text
    obtain rfl : last = "data\r".toList := by simpa [ended] using lastLine.symm
    have seen : dataLine (Text.stripSuffix '\r' "data\r".toList) = some [] := by decide
    have hidden : dataLine "data\r".toList = none := by decide
    rw [seen] at decoded
    rw [hidden] at forwarded
    simp only [Option.toList_some, Option.toList_none, List.append_nil] at decoded forwarded
    refine ⟨Text.join ['\n'] (decodedData text), by simp [decoded], ?_⟩
    by_cases blank : first = []
    · exact .inl (by simp [forwarded, blank])
    · refine .inr ⟨Text.join ['\n'] first, by simp [forwarded, blank], ?_⟩
      rw [decoded, Text.join_concat_nil blank]
      rintro (same | same) <;>
      · have lengths := congrArg List.length same
        simp at lengths
  · have named : eventName text ≠ none ∧ forwardedData text = [] := by
      by_contra other
      refine unlike ⟨?_, ended⟩
      by_cases unnamed : eventName text = none
      · exact .inl unnamed
      · exact .inr fun blank => other ⟨unnamed, blank⟩
    have isSome : (eventName text).isNone = false := by
      simpa [Option.isSome_iff_ne_none] using named.1
    exact ⟨Text.join ['\n'] (decodedData text), by simp [isSome], .inl (by simp [named.2])⟩

theorem utf8EncodeChar_cases (letter : Char) :
    (∃ byte, String.utf8EncodeChar letter = [byte]) ∨
      ∀ byte ∈ String.utf8EncodeChar letter, 128 ≤ byte.toNat := by
  unfold String.utf8EncodeChar
  simp only
  split
  · exact .inl ⟨_, rfl⟩
  · right
    split <;> [skip; split] <;> intro byte member <;>
      simp only [List.mem_cons, List.not_mem_nil, or_false] at member <;>
      (rcases member with rfl | rfl | rfl | rfl) <;> simp only [UInt8.toNat_ofNat'] <;> omega

theorem Text.utf8_cons (letter : Char) (text : Text) :
    Text.utf8 (letter :: text) = String.utf8EncodeChar letter ++ text.utf8 := by
  simp [Text.utf8]

theorem utf8EncodeChar_ne_nil (letter : Char) : String.utf8EncodeChar letter ≠ [] := by
  unfold String.utf8EncodeChar
  simp only
  split <;> [skip; split <;> [skip; split]] <;> simp

theorem drop_utf8 (text : Text) (count : Nat)
    (single : ∀ byte ∈ text.utf8.take count, byte.toNat < 128) :
    ∃ behind : Text, text.utf8.drop count = behind.utf8 := by
  induction count generalizing text with
  | zero => exact ⟨text, by simp⟩
  | succ count ih =>
    cases text with
    | nil => exact ⟨[], by simp [Text.utf8]⟩
    | cons letter rest =>
      rw [Text.utf8_cons] at single ⊢
      rcases utf8EncodeChar_cases letter with ⟨byte, encoded⟩ | wide
      · rw [encoded] at single ⊢
        simp only [List.cons_append, List.nil_append, List.take_succ_cons, List.drop_succ_cons]
          at single ⊢
        exact ih rest fun other member => single other (by simp [member])
      · cases encoded : String.utf8EncodeChar letter with
        | nil => exact absurd encoded (utf8EncodeChar_ne_nil letter)
        | cons byte more =>
          rw [encoded] at single wide
          have low := single byte (by simp)
          have high := wide byte (by simp)
          omega

theorem sseDelimiterLength_single {bytes : List UInt8} {length : Nat}
    (found : sseDelimiterLength bytes = some length) :
    ∀ byte ∈ bytes.take length, byte.toNat < 128 := by
  have feed : lineFeed.toNat < 128 := by decide
  have returned : carriageReturn.toNat < 128 := by decide
  rcases bytes with _ | ⟨first, _ | ⟨second, _ | ⟨third, _ | ⟨fourth, rest⟩⟩⟩⟩ <;>
    simp [sseDelimiterLength] at found <;>
    grind

theorem cut_utf8 {text : Text} {piece : List UInt8} {length : Nat}
    (found : sseDelimiter.cut text.utf8 = some (piece, length)) :
    ∃ before behind : Text, piece = before.utf8 ∧
      text.utf8.drop (piece.length + length) = behind.utf8 := by
  induction text generalizing piece with
  | nil => simp [Text.utf8, Delimiter.cut] at found
  | cons letter rest ih =>
    rw [Text.utf8_cons] at found ⊢
    -- The search goes on behind `letter` unless a delimiter starts at it.
    have further (start : sseDelimiter.cut (String.utf8EncodeChar letter ++ Text.utf8 rest) =
          (sseDelimiter.cut (Text.utf8 rest)).map fun cut =>
            (String.utf8EncodeChar letter ++ cut.1, cut.2)) :
        ∃ before behind : Text, piece = before.utf8 ∧
          (String.utf8EncodeChar letter ++ Text.utf8 rest).drop (piece.length + length) =
            behind.utf8 := by
      rw [start, Option.map_eq_some_iff] at found
      obtain ⟨⟨later, _⟩, cutRest, same⟩ := found
      obtain ⟨rfl, rfl⟩ : String.utf8EncodeChar letter ++ later = piece ∧ _ = length := by
        simpa using same
      obtain ⟨before, behind, rfl, dropped⟩ := ih cutRest
      refine ⟨letter :: before, behind, (Text.utf8_cons letter before).symm, ?_⟩
      rw [List.length_append, Nat.add_assoc, ← List.drop_drop, List.drop_left, dropped]
    rcases utf8EncodeChar_cases letter with ⟨byte, encoded⟩ | wide
    · cases here : sseDelimiter.at? (byte :: Text.utf8 rest) with
      | some other =>
        have whole : Text.utf8 (letter :: rest) = byte :: Text.utf8 rest := by
          rw [Text.utf8_cons, encoded]
          rfl
        rw [encoded] at found ⊢
        rw [List.cons_append, List.nil_append] at found ⊢
        rw [Delimiter.cut_cons_of_delimiter here] at found
        obtain ⟨rfl, rfl⟩ : [] = piece ∧ other = length := by simpa using found
        have single := sseDelimiterLength_single here
        rw [← whole] at single ⊢
        obtain ⟨behind, dropped⟩ := drop_utf8 (letter :: rest) other single
        exact ⟨[], behind, rfl, by simpa using dropped⟩
      | none =>
        refine further ?_
        rw [encoded]
        exact Delimiter.cut_cons_of_none here
    · refine further ?_
      rw [Delimiter.cut_drop (String.utf8EncodeChar letter).length (by simp) fun offset below => ?_]
      · simp
      · rw [List.drop_append_of_le_length (by omega)]
        obtain ⟨byte, more, split⟩ : ∃ byte more,
            (String.utf8EncodeChar letter).drop offset = byte :: more :=
          List.exists_cons_of_ne_nil (by simpa using below)
        have high := wide byte (List.mem_of_mem_drop (split ▸ List.mem_cons_self))
        rw [split]
        refine sseDelimiterLength_cons_of_plain _ ?_ ?_ <;>
        · rintro rfl
          simp [lineFeed, carriageReturn] at high

theorem split_utf8 (text : Text) :
    ∀ frame ∈ (sseDelimiter.split text.utf8).1, ∃ before : Text, frame.1 = before.utf8 := by
  generalize same : text.utf8 = bytes
  induction bytes using Delimiter.split_induction sseDelimiter generalizing text with
  | uncut bytes missing =>
    simp [Delimiter.split_of_none missing]
  | cut bytes piece length found ih =>
    subst same
    obtain ⟨before, behind, isUtf8, rest⟩ := cut_utf8 found
    rw [Delimiter.split_of_some found]
    intro frame member
    rcases List.mem_cons.1 member with rfl | later
    · exact ⟨before, isUtf8⟩
    · exact ih behind rest.symm frame later

def forwardedFrames : List (List UInt8 × Nat) → List SseReading
  | [] => []
  | frame :: rest =>
    match readForwarded frame.1 with
    | none => forwardedFrames rest
    | some reading => if reading.stops then [reading] else reading :: forwardedFrames rest

structure ForwardDrain.Reads (drained : ForwardDrain) (buffer : List UInt8)
    (frames : List (List UInt8 × Nat)) (rest : List UInt8) : Prop where
  behind : drained.stopped = false → buffer.drop drained.consumed = rest
  ended : drained.stopped = true → ∀ more, forwardedFrames (frames ++ more) = drained.readings
  running : drained.stopped = false → ∀ more,
    forwardedFrames (frames ++ more) = drained.readings ++ forwardedFrames more

theorem drainFrames_reads (fuel : Nat) (buffer : List UInt8) (consumed : Nat)
    (enough : (buffer.drop consumed).length ≤ fuel) :
    (drainFrames fuel buffer consumed).Reads buffer
      (sseDelimiter.split (buffer.drop consumed)).1
      (sseDelimiter.split (buffer.drop consumed)).2 := by
  induction fuel generalizing consumed with
  | zero =>
    have blank : buffer.drop consumed = [] := List.length_eq_zero_iff.1 (by omega)
    rw [blank]
    exact ⟨fun _ => blank, by simp [drainFrames], by simp [drainFrames, Delimiter.split,
      Delimiter.splitFrom]⟩
  | succ fuel ih =>
    rw [drainFrames, nextSseFrame_eq]
    cases found : sseDelimiter.cut (buffer.drop consumed) with
    | none =>
      rw [Delimiter.split_of_none found]
      exact ⟨fun _ => rfl, by simp, by simp⟩
    | some cut =>
      obtain ⟨frame, length⟩ := cut
      have bound := Delimiter.cut_length found
      have later := ih (consumed + (frame.length + length)) (by
        rw [← List.drop_drop, List.length_drop]
        omega)
      rw [← List.drop_drop] at later
      rw [Delimiter.split_of_some found]
      simp only
      cases reading : readForwarded frame with
      | none =>
        refine ⟨later.behind, fun stopped more => ?_, fun running more => ?_⟩
        · simpa [forwardedFrames, reading] using later.ended stopped more
        · simpa [forwardedFrames, reading] using later.running running more
      | some reading_ =>
        simp only
        by_cases stops : reading_.stops = true
        · rw [if_pos stops]
          exact ⟨by simp, by simp [forwardedFrames, reading, stops], by simp⟩
        · rw [if_neg stops]
          refine ⟨later.behind, fun stopped more => ?_, fun running more => ?_⟩
          · simpa [forwardedFrames, reading, stops] using later.ended stopped more
          · simpa [forwardedFrames, reading, stops] using later.running running more

theorem forwardFrom_eq {buffer : List UInt8} {chunks : List (List UInt8)}
    (uncut : sseDelimiter.cut buffer = none) :
    forwardFrom buffer chunks =
      forwardedFrames (sseDelimiter.split (buffer ++ chunks.flatten)).1 := by
  induction chunks generalizing buffer with
  | nil => simp [forwardFrom, Delimiter.split_of_none uncut, forwardedFrames]
  | cons chunk rest ih =>
    obtain ⟨behind, stopped, running⟩ :=
      drainFrames_reads (buffer ++ chunk).length (buffer ++ chunk) 0 (by simp)
    rw [List.drop_zero] at behind stopped running
    rw [forwardFrom, List.flatten_cons, ← List.append_assoc, Delimiter.split_append]
    simp only
    split
    · next ended => rw [stopped ended]
    · next open_ =>
      have unstopped := Bool.eq_false_iff.2 open_
      rw [running unstopped, ih]
      · rw [behind unstopped]
      · rw [behind unstopped]
        exact Delimiter.cut_split_rest _

def decodedFrames : List (List UInt8 × Nat) → List UInt8 → List SseReading
  | [], tail =>
    if maxStreamAggregateFrameBytes < tail.length then [.refused frameLimitExceeded]
    else (readDecoded tail).toList
  | frame :: rest, tail =>
    if maxStreamAggregateFrameBytes < frame.1.length + frame.2 then [.refused frameLimitExceeded]
    else
      match readDecoded frame.1 with
      | none => decodedFrames rest tail
      | some .failure => [.failure]
      | some (.refused error) => [.refused error]
      | some reading => reading :: decodedFrames rest tail

theorem readings_of_frame (frame : List UInt8) (rest : Decoded) :
    ((Decoded.ofFrame (parseSseEvent frame)).andThen rest).readings =
      match readDecoded frame with
      | none => rest.readings
      | some .failure => [.failure]
      | some (.refused error) => [.refused error]
      | some reading => reading :: rest.readings := by
  rw [readDecoded]
  rcases parseSseEvent frame with error | _ | event
  · simp [Decoded.ofFrame, Decoded.andThen, Decoded.readings, untilFailure]
  · simp [Decoded.ofFrame]
  · simp only [Option.map_some, SseEvent.reading]
    by_cases failing : isErrorEvent event.eventType = true
    · simp [Decoded.ofFrame, Decoded.andThen, Decoded.readings, untilFailure, SseEvent.reading,
        failing]
    · simp [Decoded.ofFrame, Decoded.andThen, Decoded.readings, untilFailure, SseEvent.reading,
        failing]

theorem readings_of_refusal (rest : Decoded) :
    (Decoded.andThen { error := some frameLimitExceeded } rest).readings =
      [.refused frameLimitExceeded] := by
  simp [Decoded.andThen, Decoded.readings, untilFailure]

theorem readSplit_readings (frames : List (List UInt8 × Nat)) (tail : List UInt8) :
    ((readFrames frames).andThen (readTail true tail)).readings = decodedFrames frames tail := by
  induction frames with
  | nil =>
    rw [readFrames, Decoded.empty_andThen, decodedFrames, readTail]
    split
    · simpa using readings_of_refusal {}
    · split
      · have whole := readings_of_frame tail {}
        rw [Decoded.andThen_empty] at whole
        rw [whole]
        rcases readDecoded tail with _ | _ | _ | _ | _ <;> rfl
      · next blank =>
        obtain rfl : tail = [] := by simpa using blank
        decide
  | cons frame rest ih =>
    rw [readFrames, decodedFrames, readFrame, Decoded.andThen_assoc]
    split
    · exact readings_of_refusal _
    · rw [readings_of_frame, ih]

/-- The frames up to an error-named one fit the decoder's limit and are read alike, and without an
error-named one the rest behind them fits too and holds neither an event nor a data field. -/
def ReadAlike : List (List UInt8 × Nat) → List UInt8 → Prop
  | [], tail => tail.length ≤ maxStreamAggregateFrameBytes ∧ parseSseEvent tail = .ok none
  | frame :: rest, tail =>
    frame.1.length + frame.2 ≤ maxStreamAggregateFrameBytes ∧
      ((namedUpstreamSseFailure frame.1).isSome ∨
        (∀ text, Text.fromUtf8 frame.1 = some text → FrameAlike text) ∧ ReadAlike rest tail)

theorem namedUpstreamSseFailure_utf8 (text : Text) :
    (namedUpstreamSseFailure text.utf8).isSome = isErrorEvent (eventName text) := by
  rw [namedUpstreamSseFailure, Text.fromUtf8_utf8]
  simp only
  split
  · next failing => exact failing.symm
  · next unfailing => exact (Bool.eq_false_iff.2 unfailing).symm

theorem refused_not_mem_of_agree {forwarded decoded : List SseReading}
    (agree : List.Forall₂ SseReading.Agrees forwarded decoded) (error : ProtocolError) :
    .refused error ∉ decoded := by
  induction agree with
  | nil => simp
  | @cons first second _ _ here _ ih =>
    refine List.not_mem_cons_of_ne_of_not_mem ?_ ih
    rintro rfl
    cases first <;> simp [SseReading.Agrees] at here

theorem frame_cases (text : Text) :
    (isErrorEvent (eventName text) = true ∧ readForwarded text.utf8 = some .failure ∧
        readDecoded text.utf8 = some .failure) ∨
      isErrorEvent (eventName text) = false ∧
        ((readForwarded text.utf8 = none ∧ readDecoded text.utf8 = none ∧ FrameAlike text) ∨
          ∃ decoded, readDecoded text.utf8 = some (.payload decoded) ∧
            ((readForwarded text.utf8 = none ∧ ¬ FrameAlike text) ∨
              ∃ forwarded, readForwarded text.utf8 = some (.payload forwarded) ∧
                (FrameAlike text ↔
                  SseReading.Agrees (.payload forwarded) (.payload decoded)))) := by
  by_cases failing : isErrorEvent (eventName text) = true
  · exact .inl ⟨failing, readForwarded_failing failing⟩
  · have unfailing := Bool.eq_false_iff.2 failing
    refine .inr ⟨unfailing, ?_⟩
    by_cases alike : FrameAlike text
    · rcases frame_alike alike unfailing with ⟨forwarded, decoded⟩ | ⟨f, d, forwarded, decoded, agrees⟩
      · exact .inl ⟨forwarded, decoded, alike⟩
      · exact .inr ⟨d, decoded, .inr ⟨f, forwarded, by simp [alike, agrees]⟩⟩
    · obtain ⟨d, decoded, forwarded | ⟨f, forwarded, disagrees⟩⟩ := frame_unlike alike unfailing
      · exact .inr ⟨d, decoded, .inl ⟨forwarded, alike⟩⟩
      · exact .inr ⟨d, decoded, .inr ⟨f, forwarded, by simp [alike, disagrees]⟩⟩

theorem forwardedFrames_length_le (frames : List (List UInt8 × Nat)) (tail : List UInt8)
    (valid : ∀ frame ∈ frames, ∃ text : Text, frame.1 = text.utf8)
    (clean : ∀ error, .refused error ∉ decodedFrames frames tail) :
    (forwardedFrames frames).length ≤ (decodedFrames frames tail).length := by
  induction frames with
  | nil => simp [forwardedFrames]
  | cons frame rest ih =>
    have later := ih fun other member => valid other (by simp [member])
    obtain ⟨text, same⟩ := valid frame (by simp)
    rw [decodedFrames, same] at clean ⊢
    rw [forwardedFrames, same]
    by_cases long : maxStreamAggregateFrameBytes < text.utf8.length + frame.2
    · rw [if_pos long] at clean
      exact absurd (List.mem_singleton.2 rfl) (clean frameLimitExceeded)
    · rw [if_neg long] at clean ⊢
      rcases frame_cases text with
        ⟨-, forwarded, decoded⟩ | ⟨-, ⟨forwarded, decoded, -⟩ | ⟨d, decoded, other⟩⟩
      · simp [forwarded, decoded, SseReading.stops]
      · rw [decoded] at clean
        simpa [forwarded, decoded] using later clean
      · rw [decoded] at clean
        have counted := later fun error member => clean error (List.mem_cons_of_mem _ member)
        rcases other with ⟨forwarded, -⟩ | ⟨f, forwarded, -⟩
        · simp only [forwarded, decoded, List.length_cons]
          omega
        · simpa [forwarded, decoded, SseReading.stops] using counted

theorem agree_iff_readAlike (frames : List (List UInt8 × Nat)) (tail : List UInt8)
    (valid : ∀ frame ∈ frames, ∃ text : Text, frame.1 = text.utf8) :
    List.Forall₂ SseReading.Agrees (forwardedFrames frames) (decodedFrames frames tail) ↔
      ReadAlike frames tail := by
  induction frames with
  | nil =>
    rw [forwardedFrames, decodedFrames, ReadAlike]
    split
    · simp
      omega
    · next short =>
      have fits := Nat.not_lt.1 short
      rcases parsed : parseSseEvent tail with error | _ | event <;>
        simp [readDecoded, parsed, fits]
  | cons frame rest ih =>
    have later := ih fun other member => valid other (by simp [member])
    obtain ⟨text, same⟩ := valid frame (by simp)
    rw [forwardedFrames, decodedFrames, ReadAlike, same, Text.fromUtf8_utf8,
      namedUpstreamSseFailure_utf8]
    by_cases long : maxStreamAggregateFrameBytes < text.utf8.length + frame.2
    · rw [if_pos long]
      refine iff_of_false (fun agree => ?_) (by omega)
      exact refused_not_mem_of_agree agree frameLimitExceeded (by simp)
    · rw [if_neg long]
      have fits := Nat.not_lt.1 long
      rcases frame_cases text with
        ⟨failing, forwarded, decoded⟩ |
        ⟨unfailing, ⟨forwarded, decoded, alike⟩ | ⟨d, decoded, ⟨forwarded, unlike⟩ | ⟨f, forwarded, alike⟩⟩⟩
      · simp [forwarded, decoded, SseReading.stops, fits, failing, SseReading.Agrees]
      · simp [forwarded, decoded, fits, unfailing, alike, later]
      · refine iff_of_false (fun agree => ?_) (by simp [unfailing, unlike])
        rw [forwarded, decoded] at agree
        have counted := forwardedFrames_length_le rest tail
          (fun other member => valid other (by simp [member]))
          fun error member => refused_not_mem_of_agree agree error (List.mem_cons_of_mem _ member)
        have lengths := agree.length_eq
        simp only [List.length_cons] at lengths
        omega
      · simp [forwarded, decoded, SseReading.stops, fits, unfailing, alike, later]

theorem decode_readings {chunks : List (List UInt8)}
    (bounded : chunks.flatten.length ≤ maxStreamAggregateTotalBytes) :
    (SseDecoder.decode chunks).readings =
      decodedFrames (sseDelimiter.split chunks.flatten).1 (sseDelimiter.split chunks.flatten).2 := by
  rw [SseDecoder.decode_eq bounded, readSplit, readSplit_readings]

theorem decode_of_overflow {bytes : List UInt8}
    (overflow : maxStreamAggregateTotalBytes < bytes.length) :
    SseDecoder.decode [bytes] =
      { error := some (.invalidUpstreamStream .limitExceeded "total byte limit exceeded") } := by
  have nonempty : bytes ≠ [] := by
    rintro rfl
    simp at overflow
  simp [SseDecoder.decode, SseDecoder.decodeFrom, SseDecoder.append, nonempty, overflow]

/-- Both readers obtain the same from a UTF-8 stream, however it is cut into chunks, exactly when
it fits the decoder's limits, its frames are read alike and nothing is left behind its last blank
line. -/
theorem readers_agree_iff (text : Text) :
    (∀ chunks : List (List UInt8), chunks.flatten = text.utf8 →
        List.Forall₂ SseReading.Agrees (forwardFrom [] chunks)
          (SseDecoder.decode chunks).readings) ↔
      text.utf8.length ≤ maxStreamAggregateTotalBytes ∧
        ReadAlike (sseDelimiter.split text.utf8).1 (sseDelimiter.split text.utf8).2 := by
  have alike := agree_iff_readAlike _ (sseDelimiter.split text.utf8).2 (split_utf8 text)
  have forwarded : ∀ chunks : List (List UInt8), chunks.flatten = text.utf8 →
      forwardFrom [] chunks = forwardedFrames (sseDelimiter.split text.utf8).1 := by
    intro chunks whole
    rw [forwardFrom_eq rfl, List.nil_append, whole]
  constructor
  · intro agree
    have once := agree [text.utf8] (by simp)
    by_cases overflow : maxStreamAggregateTotalBytes < text.utf8.length
    · rw [decode_of_overflow overflow] at once
      exact absurd (by simp [Decoded.readings, untilFailure]) (refused_not_mem_of_agree once
        (.invalidUpstreamStream .limitExceeded "total byte limit exceeded"))
    · have bounded := Nat.not_lt.1 overflow
      refine ⟨bounded, alike.1 ?_⟩
      rwa [forwarded _ (by simp), decode_readings (by simpa using bounded),
        List.flatten_singleton] at once
  · rintro ⟨bounded, read⟩ chunks whole
    rw [forwarded chunks whole, decode_readings (by rw [whole]; exact bounded), whole]
    exact alike.2 read

/-- An event the upstream did not end by a blank line is decoded and not forwarded. -/
theorem unterminated_event_is_not_forwarded :
    ¬ ∀ (text : Text) (chunks : List (List UInt8)), chunks.flatten = text.utf8 →
      List.Forall₂ SseReading.Agrees (forwardFrom [] chunks)
        (SseDecoder.decode chunks).readings := by
  intro claimed
  have agree := claimed "data: a".toList [Text.utf8 "data: a".toList] (by simp)
  have forwarded : forwardFrom [] [Text.utf8 "data: a".toList] = [] := by decide +kernel
  have decoded : (SseDecoder.decode [Text.utf8 "data: a".toList]).readings =
      [.payload "a".toList] := by decide +kernel
  rw [forwarded, decoded] at agree
  cases agree

end ChatGateway
