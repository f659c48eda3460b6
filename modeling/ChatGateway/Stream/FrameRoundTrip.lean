import ChatGateway.Stream.SseAgreement
import ChatGateway.Stream.StreamEvents

set_option autoImplicit false

/-!
# Reading back the frames the gateway writes

A frame is written as an optional event line, a data line with the printed value and a blank line.
-/

namespace ChatGateway

/-- A text without an end of line in it, as the JSON library prints values. -/
def Unbroken (text : Text) : Prop := '\n' ∉ text ∧ '\r' ∉ text

def eventField : Text := ['e', 'v', 'e', 'n', 't']

def dataField : Text := ['d', 'a', 't', 'a']

def fieldLine (field value : Text) : Text := field ++ ':' :: ' ' :: value

def frameText : Option Text → Text → Text
  | some event, data => fieldLine eventField event ++ '\n' :: fieldLine dataField data
  | none, data => fieldLine dataField data

def writtenEvent (codec : JsonCodec) (value : Json) : SseEvent where
  eventType := ((value.str "type").filter (· ≠ "")).map (·.toList)
  data := (codec.print value).toList

theorem serializeSseData_eq (codec : JsonCodec) (value : Json) :
    serializeSseData codec value =
      (frameText (writtenEvent codec value).eventType (writtenEvent codec value).data).utf8 ++
        [lineFeed, lineFeed] := by
  have feeds : [lineFeed, lineFeed] = Text.utf8 ['\n', '\n'] := by decide
  have joined (front : Text) : front.utf8 ++ [lineFeed, lineFeed] =
      Text.utf8 (front ++ ['\n', '\n']) := by
    rw [feeds]
    exact List.flatMap_append.symm
  have ends : "\n\n".toList = ['\n', '\n'] := rfl
  have events : "event: ".toList = eventField ++ [':', ' '] := rfl
  have datas : "data: ".toList = dataField ++ [':', ' '] := rfl
  have middle : "\ndata: ".toList = '\n' :: (dataField ++ [':', ' ']) := rfl
  rw [joined]
  unfold serializeSseData writtenEvent
  cases (value.str "type").filter (· ≠ "") with
  | none =>
    show Text.utf8 ("data: " ++ codec.print value ++ "\n\n").toList = _
    rw [String.toList_append, String.toList_append, ends, datas]
    simp [frameText, fieldLine]
  | some event =>
    show Text.utf8 ("event: " ++ event ++ "\ndata: " ++ codec.print value ++ "\n\n").toList = _
    rw [String.toList_append, String.toList_append, String.toList_append, String.toList_append,
      ends, events, middle]
    simp [frameText, fieldLine]

theorem Unbroken.bytes {text : Text} (unbroken : Unbroken text) :
    ∀ byte ∈ text.utf8, byte ≠ lineFeed ∧ byte ≠ carriageReturn := by
  intro byte member
  obtain ⟨letter, inside, member⟩ := List.mem_flatMap.1 member
  have apart (other : Char) (missing : other ∉ text) :
      String.utf8EncodeChar letter ≠ String.utf8EncodeChar other := by
    intro same
    have one : Text.utf8 [letter] = Text.utf8 [other] := by
      simp only [Text.utf8, List.flatMap_cons, List.flatMap_nil, same]
    have read := congrArg Text.fromUtf8 one
    rw [Text.fromUtf8_utf8, Text.fromUtf8_utf8] at read
    cases read
    exact missing inside
  rcases utf8EncodeChar_cases letter with ⟨single, encoded⟩ | wide
  · rw [encoded, List.mem_singleton] at member
    subst member
    refine ⟨?_, ?_⟩
    · rintro rfl
      exact apart '\n' unbroken.1 encoded
    · rintro rfl
      exact apart '\r' unbroken.2 encoded
  -- The bytes of a wide letter are beyond those of all ASCII letters.
  · have high := wide byte member
    refine ⟨?_, ?_⟩ <;>
    · rintro rfl
      simp [lineFeed, carriageReturn] at high

theorem cut_unbroken {line : List UInt8} (rest : List UInt8)
    (plain : ∀ byte ∈ line, byte ≠ lineFeed ∧ byte ≠ carriageReturn) :
    sseDelimiter.cut (line ++ rest) =
      (sseDelimiter.cut rest).map fun cut => (line ++ cut.1, cut.2) := by
  induction line with
  | nil => simp
  | cons byte line ih =>
    have here := plain byte (.head _)
    rw [List.cons_append,
      Delimiter.cut_cons_of_none (sseDelimiterLength_cons_of_plain _ here.1 here.2),
      ih fun other member => plain other (.tail _ member), Option.map_map]
    rfl

theorem cut_feed {line : List UInt8} (rest : List UInt8) (filled : line ≠ [])
    (plain : ∀ byte ∈ line, byte ≠ lineFeed ∧ byte ≠ carriageReturn) :
    sseDelimiter.cut (lineFeed :: (line ++ rest)) =
      (sseDelimiter.cut (line ++ rest)).map fun cut => (lineFeed :: cut.1, cut.2) := by
  obtain ⟨byte, behind, rfl⟩ := List.exists_cons_of_ne_nil filled
  refine Delimiter.cut_cons_of_none ?_
  show sseDelimiterLength (lineFeed :: byte :: (behind ++ rest)) = none
  rw [sseDelimiterLength_feed, if_neg (plain byte (.head _)).1]

theorem cut_ended {line : List UInt8} (more : List UInt8)
    (plain : ∀ byte ∈ line, byte ≠ lineFeed ∧ byte ≠ carriageReturn) :
    sseDelimiter.cut (line ++ ([lineFeed, lineFeed] ++ more)) = some (line, 2) := by
  have here : sseDelimiter.cut ([lineFeed, lineFeed] ++ more) = some ([], 2) :=
    Delimiter.cut_cons_of_delimiter
      ((sseDelimiterLength_feed lineFeed more).trans (if_pos rfl))
  rw [cut_unbroken _ plain, here, Option.map_some, List.append_nil]

theorem Unbroken.append {front tail : Text} (first : Unbroken front) (second : Unbroken tail) :
    Unbroken (front ++ tail) :=
  ⟨fun inside => (List.mem_append.1 inside).elim first.1 second.1,
    fun inside => (List.mem_append.1 inside).elim first.2 second.2⟩

theorem utf8_lines (front behind : Text) :
    Text.utf8 (front ++ '\n' :: behind) = front.utf8 ++ lineFeed :: behind.utf8 := by
  have feed : String.utf8EncodeChar '\n' = [lineFeed] := by decide
  rw [Text.utf8, List.flatMap_append, List.flatMap_cons, feed, List.singleton_append]
  simp only [Text.utf8]

theorem fieldLine_unbroken {field value : Text} (plain : Unbroken field)
    (unbroken : Unbroken value) : Unbroken (fieldLine field value) :=
  plain.append (@Unbroken.append [':', ' '] _ ⟨by decide, by decide⟩ unbroken)

theorem eventField_unbroken : Unbroken eventField := ⟨by decide, by decide⟩

theorem dataField_unbroken : Unbroken dataField := ⟨by decide, by decide⟩

theorem cut_frame {eventType : Option Text} {data : Text}
    (named : ∀ event ∈ eventType, Unbroken event) (unbroken : Unbroken data) (more : List UInt8) :
    sseDelimiter.cut ((frameText eventType data).utf8 ++ ([lineFeed, lineFeed] ++ more)) =
      some ((frameText eventType data).utf8, 2) := by
  have dataLine := (fieldLine_unbroken dataField_unbroken unbroken).bytes
  cases eventType with
  | none => exact cut_ended more dataLine
  | some event =>
    have eventLine := (fieldLine_unbroken eventField_unbroken (named event rfl)).bytes
    -- The feed behind the event line begins no delimiter, since a data line follows it.
    have filled : (fieldLine dataField data).utf8 ≠ [] := by
      rw [Text.utf8, fieldLine, List.flatMap_append]
      exact List.append_ne_nil_of_left_ne_nil (by decide) _
    rw [frameText, utf8_lines, List.append_assoc, List.cons_append, cut_unbroken _ eventLine,
      cut_feed _ filled dataLine, cut_ended more dataLine]
    simp only [Option.map_some]

theorem stripSuffix_unbroken {text : Text} (unbroken : Unbroken text) :
    Text.stripSuffix '\r' text = text := by
  rw [Text.stripSuffix, if_neg]
  exact fun last => unbroken.2 (List.mem_of_getLast? last)

theorem splitOnce_fieldLine {field : Text} (value : Text) (missing : ':' ∉ field) :
    Text.splitOnce ':' (fieldLine field value) = (field, ' ' :: value) :=
  Text.splitOnce_of_append (' ' :: value) missing

theorem dataLine_fieldLine {field : Text} (value : Text) (missing : ':' ∉ field) :
    dataLine (fieldLine field value) = if field = dataField then some value else none := by
  rw [dataLine_eq, splitOnce_fieldLine value missing]
  rfl

theorem readEventName_fieldLine {field value : Text} (missing : ':' ∉ field)
    (unbroken : Unbroken (fieldLine field value)) (before : Option Text) :
    readEventName before (fieldLine field value) =
      if field = eventField then some value else before := by
  rw [readEventName, stripSuffix_unbroken unbroken, splitOnce_fieldLine value missing]
  rfl

theorem parse_frame {eventType : Option Text} {data : Text}
    (named : ∀ event ∈ eventType, Unbroken event) (unbroken : Unbroken data) :
    parseSseEvent (frameText eventType data).utf8 = .ok (some ⟨eventType, data⟩) := by
  have dataText := fieldLine_unbroken dataField_unbroken unbroken
  have whole : (fieldLine dataField data).splitOn '\n' = [fieldLine dataField data] :=
    List.splitOn_eq_singleton dataText.1
  have noColon : ':' ∉ dataField := by decide
  have read (before : Option Text) : readEventName before (fieldLine dataField data) = before := by
    rw [readEventName_fieldLine noColon dataText, if_neg (by decide)]
  have found : dataLine (fieldLine dataField data) = some data := by
    rw [dataLine_fieldLine data noColon, if_pos rfl]
  rw [parseSseEvent_utf8, eventName, decodedData]
  cases eventType with
  | none =>
    rw [frameText, whole]
    simp [stripSuffix_unbroken dataText, found, read, Text.join]
  | some event =>
    have eventText := fieldLine_unbroken eventField_unbroken (named event rfl)
    have other : ':' ∉ eventField := by decide
    have name : readEventName none (fieldLine eventField event) = some event := by
      rw [readEventName_fieldLine other eventText, if_pos rfl]
    have skipped : dataLine (fieldLine eventField event) = none := by
      rw [dataLine_fieldLine event other, if_neg (by decide)]
    rw [frameText, List.splitOn_append_cons_self_of_not_mem eventText.1, whole]
    simp [stripSuffix_unbroken dataText, stripSuffix_unbroken eventText, found, read, name, skipped,
      Text.join]

theorem writtenEvent_unbroken {codec : JsonCodec} {value : Json}
    (named : ∀ name ∈ value.str "type", Unbroken name.toList) :
    ∀ event ∈ (writtenEvent codec value).eventType, Unbroken event := by
  intro event member
  obtain ⟨name, kept, rfl⟩ := Option.mem_map.1 member
  exact named name (Option.mem_filter_iff.1 kept).1

/-- What the gateway writes is what its decoder reads, event by event, however the network cuts the
bytes: the printed value, under the name its `type` gives. -/
theorem written_frames_read_back {codec : JsonCodec}
    (prints : ∀ value, Unbroken (codec.print value).toList) {values : List Json}
    (named : ∀ value ∈ values, ∀ name ∈ value.str "type", Unbroken name.toList)
    (fits : ∀ value ∈ values,
      (serializeSseData codec value).length ≤ maxStreamAggregateFrameBytes)
    {chunks : List (List UInt8)} (sent : chunks.flatten = values.flatMap (serializeSseData codec))
    (bounded : chunks.flatten.length ≤ maxStreamAggregateTotalBytes) :
    SseDecoder.decode chunks = { events := values.map (writtenEvent codec) } := by
  rw [SseDecoder.decode_eq bounded, sent]
  clear sent bounded
  induction values with
  | nil =>
    rw [readSplit_of_none true (by rfl)]
    rfl
  | cons value rest ih =>
    have event := @writtenEvent_unbroken codec value (named value (.head _))
    have data : Unbroken (writtenEvent codec value).data := prints value
    have found := cut_frame event data (rest.flatMap (serializeSseData codec))
    have size := fits value (.head _)
    rw [serializeSseData_eq, List.length_append, List.length_cons, List.length_singleton] at size
    rw [List.flatMap_cons, serializeSseData_eq, List.append_assoc, readSplit_of_some true found,
      readFrame, if_neg (Nat.not_lt.2 size), parse_frame event data,
      ← List.append_assoc, List.drop_left' (by simp),
      ih (fun other member => named other (.tail _ member))
        fun other member => fits other (.tail _ member)]
    rfl

def pingEvent : Json := .object [("type", .string "ping")]

def pingText : String := "\x7b\"type\":\"ping\"\x7d"

def pingPrinter : JsonCodec where
  print _ := pingText
  escape letter := [letter]
  readStream _ := []

theorem pingEvent_read_back :
    SseDecoder.decode [(serializeSseData pingPrinter pingEvent).take 3,
      (serializeSseData pingPrinter pingEvent).drop 3] =
      { events := [writtenEvent pingPrinter pingEvent] } :=
  @written_frames_read_back pingPrinter
    (fun _ => ⟨(by decide : '\n' ∉ pingText.toList), (by decide : '\r' ∉ pingText.toList)⟩) [pingEvent]
    (fun value member name named => by
      rw [List.mem_singleton] at member
      subst member
      cases named
      exact ⟨by decide, by decide⟩)
    (fun value member => by
      rw [List.mem_singleton] at member
      subst member
      decide +kernel)
    [_, _] (by simp) (by decide +kernel)

end ChatGateway
