import Mathlib.Data.List.TakeWhile
import ChatGateway.Protocol.EventStream
import ChatGateway.Shared.JsonText

set_option autoImplicit false

/-!
# The arguments of a tool call

Fragments of arguments are put together, and what came together is normalized before it is passed
on.
-/

namespace ChatGateway

open JsonGrammar

/-- What the gateway relies on in its JSON library: it reads JSON texts only, as one value each or
not at all, blanks around a text do not matter, and what it read it prints as a text it reads. -/
structure JsonCodec.ReadsJson (codec : JsonCodec) : Prop where
  sound : ∀ text : String, codec.reads text = true → JsonText text.toList
  single : ∀ text : String, JsonText text.toList →
    codec.readStream text = [none] ∨ ∃ value, codec.readStream text = [some value]
  blanks : ∀ before text after : List Char, Blank before → Blank after →
    codec.reads (String.ofList (before ++ text ++ after)) = codec.reads (String.ofList text)
  printed : ∀ (text : String) (value : Json), some value ∈ codec.readStream text →
    codec.reads (codec.print value) = true
  emptyObject : codec.reads "\x7b\x7d" = true

def mergeFragments (codec : JsonCodec) (entry : ChatToolCallState) (fragments : List String) :
    ChatToolCallState :=
  fragments.foldl (fun entry fragment => (mergeToolCallArguments codec entry fragment true).1) entry

section Merging

variable {codec : JsonCodec}

theorem opensValue_cons {fragment : String} (opening : opensValue fragment = true) :
    ∃ char rest, fragment.toList = char :: rest ∧ (char = '"' ∨ opens char = true) := by
  unfold opensValue at opening
  split at opening
  next rest known => exact ⟨_, rest, known, .inr rfl⟩
  next rest known => exact ⟨_, rest, known, .inr rfl⟩
  next rest known => exact ⟨_, rest, known, .inl rfl⟩
  · cases opening

-- The call holds a whole value only when nothing that begins a value is still to come.
theorem mergeToolCallArguments_appends (laws : codec.ReadsJson) {entry : ChatToolCallState}
    {fragment : String} {rest : List Char}
    (whole : JsonText (entry.arguments.toList ++ (fragment.toList ++ rest))) :
    mergeToolCallArguments codec entry fragment true =
      ({ entry with arguments := entry.arguments ++ fragment }, .appended) := by
  unfold mergeToolCallArguments
  rw [if_neg]
  intro replaces
  simp only [Bool.true_and, Bool.and_eq_true] at replaces
  obtain ⟨⟨-, complete⟩, opening⟩ := replaces
  obtain ⟨char, more, split, opens⟩ := opensValue_cons opening
  rw [split, List.cons_append] at whole
  exact not_text_of_more (laws.sound _ complete) opens whole

theorem mergeFragments_arguments (laws : codec.ReadsJson) {entry : ChatToolCallState}
    {fragments : List String} {rest : List Char}
    (whole : JsonText (entry.arguments.toList ++ (joined fragments ++ rest))) :
    (mergeFragments codec entry fragments).arguments.toList =
      entry.arguments.toList ++ joined fragments := by
  induction fragments generalizing entry with
  | nil => simp [mergeFragments]
  | cons fragment more ih =>
    have flat : joined (fragment :: more) = fragment.toList ++ joined more := rfl
    rw [flat, List.append_assoc] at whole
    have merged : mergeFragments codec entry (fragment :: more) =
        mergeFragments codec { entry with arguments := entry.arguments ++ fragment } more := by
      rw [mergeFragments, List.foldl_cons, mergeToolCallArguments_appends laws whole]
      rfl
    rw [merged, ih, flat]
    · simp
    · simpa using whole

-- The fragments of a JSON text make up the text, and none of them is taken for a new value.
theorem mergeFragments_of_text (laws : codec.ReadsJson) {entry : ChatToolCallState} {text : String}
    {fragments : List String} (empty : entry.arguments = "") (whole : JsonText text.toList)
    (split : joined fragments = text.toList) :
    (mergeFragments codec entry fragments).arguments = text ∧
      ∀ before fragment after, fragments = before ++ fragment :: after →
        (mergeToolCallArguments codec (mergeFragments codec entry before) fragment true).2 =
          .appended := by
  constructor
  · apply String.toList_injective
    rw [← split] at whole
    rw [@mergeFragments_arguments codec laws entry fragments [] (by simpa [empty] using whole),
      empty, ← split]
    rfl
  · rintro before fragment after rfl
    rw [← split, joined_append] at whole
    have sofar : (mergeFragments codec entry before).arguments.toList = joined before := by
      rw [mergeFragments_arguments laws (by simpa [empty] using whole), empty]
      rfl
    rw [mergeToolCallArguments_appends laws]
    rw [sofar]
    exact whole

end Merging

def takenOff (text : Text) : Text :=
  text.takeWhile Text.isWhitespace ++
    (text.dropWhile Text.isWhitespace).reverse.takeWhile Text.isWhitespace

def strip (drop : Char → Bool) (text : Text) : Text :=
  ((text.dropWhile drop).reverse.dropWhile drop).reverse

theorem strip_split (drop : Char → Bool) (text : Text) : text = text.takeWhile drop ++
    strip drop text ++ ((text.dropWhile drop).reverse.takeWhile drop).reverse := by
  have back := @List.takeWhile_append_dropWhile _ drop (text.dropWhile drop).reverse
  have front := @List.takeWhile_append_dropWhile _ drop text
  unfold strip
  rw [List.append_assoc, ← List.reverse_append, back, List.reverse_reverse, front]

theorem isWhitespace_of_visible {char : Char} (visible : Visible char) :
    Text.isWhitespace char = false := by
  unfold Visible at visible
  simp only [Text.isWhitespace, Bool.or_eq_false_iff, Bool.and_eq_false_iff,
    decide_eq_false_iff_not]
  omega

theorem isWhitespace_of_blank {text : List Char} (blank : Blank text) :
    ∀ char ∈ text, Text.isWhitespace char = true := by
  intro char member
  have known := blank char member
  simp only [List.mem_cons, List.not_mem_nil, or_false] at known
  rcases known with rfl | rfl | rfl | rfl <;> decide

theorem span_blank {blank rest : List Char} {char : Char} (isBlank : Blank blank)
    (visible : Visible char) :
    (blank ++ char :: rest).takeWhile Text.isWhitespace = blank ∧
      (blank ++ char :: rest).dropWhile Text.isWhitespace = char :: rest := by
  have white := isWhitespace_of_blank isBlank
  have stops := isWhitespace_of_visible visible
  constructor
  · rw [List.takeWhile_append_of_pos white, List.takeWhile_cons_of_neg (by simp [stops]),
      List.append_nil]
  · rw [List.dropWhile_append_of_pos white, List.dropWhile_cons_of_neg (by simp [stops])]

theorem takenOff_of_text {text : List Char} (whole : JsonText text) :
    Blank (takenOff text) ∧ JsonText (Text.trim text) ∧ Text.trim text ≠ [] := by
  unfold JsonText at whole
  cases whole with
  | @element before value after blankBefore inside blankAfter =>
    obtain ⟨⟨first, isFirst, visibleFirst⟩, last, isLast, visibleLast⟩ := visibleEnds_of_value inside
    obtain ⟨tail, front⟩ := List.head?_eq_some_iff.1 isFirst
    obtain ⟨init, back⟩ := List.getLast?_eq_some_iff.1 isLast
    have taken : (before ++ value ++ after).takeWhile Text.isWhitespace = before ∧
        (before ++ value ++ after).dropWhile Text.isWhitespace = value ++ after := by
      rw [List.append_assoc, front, List.cons_append]
      exact span_blank blankBefore visibleFirst
    have blankReversed : Blank after.reverse :=
      fun char member => blankAfter char (List.mem_reverse.1 member)
    have takenBack : (value ++ after).reverse.takeWhile Text.isWhitespace = after.reverse ∧
        (value ++ after).reverse.dropWhile Text.isWhitespace = value.reverse := by
      rw [back, List.reverse_append, List.reverse_append]
      exact span_blank blankReversed visibleLast
    have trimmed : Text.trim (before ++ value ++ after) = value := by
      rw [Text.trim, taken.2, takenBack.2, List.reverse_reverse]
    refine ⟨?_, ?_, ?_⟩
    · rw [takenOff, taken.1, taken.2, takenBack.1]
      intro char member
      rcases List.mem_append.1 member with inFront | inBack
      · exact blankBefore char inFront
      · exact blankReversed char inBack
    · rw [trimmed]
      have noBlank : Blank [] := fun char member => by cases member
      have whole := Spells.element noBlank inside noBlank
      rwa [List.nil_append, List.append_nil] at whole
    · rw [trimmed, front]
      exact List.cons_ne_nil _ _

structure Normalizes (codec : JsonCodec) (raw : String) : Prop where
  idempotent : (normalizeToolArguments codec (normalizeToolArguments codec raw).1).1 =
    (normalizeToolArguments codec raw).1
  kept : JsonText raw.toList → (normalizeToolArguments codec raw).1 = raw
  reads : (normalizeToolArguments codec raw).2 ≠ some .unparseable →
    codec.reads (normalizeToolArguments codec raw).1 = true

def TrimsBlanks (codec : JsonCodec) (raw : String) : Prop :=
  codec.reads (String.ofList (Text.trim raw.toList)) = true → Blank (takenOff raw.toList)

section Normalizing

variable {codec : JsonCodec}

theorem reads_iff {text : String} :
    codec.reads text = true ↔ ∃ value, codec.readStream text = [some value] := by
  unfold JsonCodec.reads
  split
  next value known => exact ⟨fun _ => ⟨value, known⟩, fun _ => rfl⟩
  next other =>
    constructor
    · intro impossible
      cases impossible
    · rintro ⟨value, known⟩
      exact absurd known (other value)

theorem reads_trim (laws : codec.ReadsJson) (raw : String) :
    codec.reads raw = true ↔
      codec.reads (String.ofList (Text.trim raw.toList)) = true ∧ Blank (takenOff raw.toList) := by
  have parts : raw.toList = raw.toList.takeWhile Text.isWhitespace ++ Text.trim raw.toList ++
      ((raw.toList.dropWhile Text.isWhitespace).reverse.takeWhile Text.isWhitespace).reverse :=
    strip_split Text.isWhitespace raw.toList
  have same (blank : Blank (takenOff raw.toList)) :
      codec.reads raw = codec.reads (String.ofList (Text.trim raw.toList)) := by
    have front : Blank (raw.toList.takeWhile Text.isWhitespace) :=
      fun char member => blank char (List.mem_append_left _ member)
    have back : Blank
        ((raw.toList.dropWhile Text.isWhitespace).reverse.takeWhile Text.isWhitespace).reverse :=
      fun char member => blank char (List.mem_append_right _ (List.mem_reverse.1 member))
    rw [← laws.blanks _ (Text.trim raw.toList) _ front back, ← parts, String.ofList_toList]
  constructor
  · intro reads
    have blank := (takenOff_of_text (laws.sound raw reads)).1
    exact ⟨same blank ▸ reads, blank⟩
  · rintro ⟨reads, blank⟩
    rw [same blank]
    exact reads

theorem not_text_nil : ¬ JsonText [] :=
  fun whole => (takenOff_of_text whole).2.2 rfl

theorem not_reads_empty (laws : codec.ReadsJson) {raw : String}
    (empty : Text.trim raw.toList = []) :
    codec.reads (String.ofList (Text.trim raw.toList)) = false := by
  rw [empty]
  exact Bool.eq_false_iff.2 fun reads => not_text_nil (laws.sound _ reads)

theorem readStream_of_text (laws : codec.ReadsJson) {raw : String} (whole : JsonText raw.toList) :
    Text.trim raw.toList ≠ [] ∧
      (codec.readStream (String.ofList (Text.trim raw.toList)) = [none] ∨
        ∃ value, codec.readStream (String.ofList (Text.trim raw.toList)) = [some value]) := by
  obtain ⟨-, trimmed, filled⟩ := takenOff_of_text whole
  exact ⟨filled, laws.single _ (by rwa [String.toList_ofList])⟩

inductive Normalized (codec : JsonCodec) (raw : String) :
    String × Option ToolArgumentsRepairReason → Prop where
  | empty (notText : ¬ JsonText raw.toList) : Normalized codec raw ("\x7b\x7d", none)
  | unparseable : Normalized codec raw (raw, some .unparseable)
  | whole (reads : codec.reads (String.ofList (Text.trim raw.toList)) = true) :
      Normalized codec raw (raw, none)
  | trailing {value : Json} (notText : ¬ JsonText raw.toList)
      (reads : codec.reads (codec.print value) = true) :
      Normalized codec raw (codec.print value, some .trailingData)

theorem mem_lastTrailingObject {stream : List (Option Json)} {found : Option Json} {value : Json}
    (last : lastTrailingObject stream found = some value) :
    some value ∈ stream ∨ found = some value := by
  induction stream generalizing found with
  | nil => exact .inr last
  | cons item rest ih =>
    cases item with
    | none => exact .inr last
    | some other =>
      rcases ih last with later | here
      · exact .inl (List.mem_cons_of_mem _ later)
      · split at here
        · obtain rfl := Option.some.inj here
          exact .inl List.mem_cons_self
        · exact .inr here

theorem normalize_of_reads (laws : codec.ReadsJson) {raw : String}
    (reads : codec.reads (String.ofList (Text.trim raw.toList)) = true) :
    normalizeToolArguments codec raw = (raw, none) := by
  have filled : (Text.trim raw.toList).isEmpty = false := by
    refine Bool.eq_false_iff.2 fun empty => ?_
    rw [not_reads_empty laws (List.isEmpty_iff.1 empty)] at reads
    cases reads
  obtain ⟨value, known⟩ := reads_iff.1 reads
  simp [normalizeToolArguments, filled, known]

theorem normalized (laws : codec.ReadsJson) (raw : String) :
    Normalized codec raw (normalizeToolArguments codec raw) := by
  unfold normalizeToolArguments
  dsimp only
  split
  next empty =>
    exact .empty fun whole => (readStream_of_text laws whole).1 (List.isEmpty_iff.1 empty)
  · split
    next nothing =>
      refine .empty fun whole => ?_
      obtain ⟨-, refused | ⟨value, one⟩⟩ := readStream_of_text laws whole
      · rw [nothing] at refused
        cases refused
      · rw [nothing] at one
        cases one
    · exact .unparseable
    next value single => exact .whole (reads_iff.2 ⟨value, single⟩)
    next first trailing more stream =>
      refine .trailing (fun whole => ?_) ?_
      · obtain ⟨-, refused | ⟨value, one⟩⟩ := readStream_of_text laws whole
        · rw [stream] at refused
          cases refused
        · rw [stream, List.cons.injEq] at one
          exact more one.2
      · -- What is printed came from the stream: its last object or its first value.
        cases last : lastTrailingObject trailing none with
        | none => exact laws.printed _ first (by rw [stream]; exact List.mem_cons_self)
        | some object =>
          rcases mem_lastTrailingObject last with member | impossible
          · refine laws.printed (String.ofList (Text.trim raw.toList)) object ?_
            rw [stream]
            exact List.mem_cons_of_mem _ member
          · cases impossible

theorem normalizes_iff (laws : codec.ReadsJson) (raw : String) :
    Normalizes codec raw ↔ TrimsBlanks codec raw := by
  cases reads : codec.reads (String.ofList (Text.trim raw.toList)) with
  | true =>
    have same := normalize_of_reads laws reads
    constructor
    · intro normalizes _
      have whole := normalizes.reads (by rw [same]; simp)
      rw [same] at whole
      exact ((reads_trim laws raw).1 whole).2
    · intro blank
      constructor
      case idempotent => rw [same, same]
      case kept => rw [same]; exact fun _ => rfl
      case reads =>
        rw [same]
        exact fun _ => (reads_trim laws raw).2 ⟨reads, blank reads⟩
  | false =>
    have blank : TrimsBlanks codec raw := fun impossible => by simp [reads] at impossible
    refine ⟨fun _ => blank, fun _ => ?_⟩
    have whole : ∀ text : String, codec.reads text = true →
        normalizeToolArguments codec text = (text, none) :=
      fun text isWhole => normalize_of_reads laws ((reads_trim laws text).1 isWhole).1
    have cases := normalized laws raw
    cases result : normalizeToolArguments codec raw with
    | mk text reason =>
      rw [result] at cases
      cases cases with
      | empty notText =>
        have again := whole _ laws.emptyObject
        constructor
        case idempotent => rw [result, again]
        case kept => exact fun isText => absurd isText notText
        case reads =>
          rw [result]
          exact fun _ => laws.emptyObject
      | unparseable =>
        constructor
        case idempotent => rw [result, result]
        case kept =>
          rw [result]
          exact fun _ => rfl
        case reads =>
          rw [result]
          exact fun parsed => absurd rfl parsed
      | whole impossible =>
        rw [reads] at impossible
        cases impossible
      | trailing notText printed =>
        constructor
        case idempotent => rw [result, whole _ printed]
        case kept => exact fun isText => absurd isText notText
        case reads =>
          rw [result]
          exact fun _ => printed

end Normalizing

/-- Legitimate fragments are put together as they are; normalizing does what it should for exactly
the texts from which trimming takes JSON blanks only. -/
theorem tool_arguments_kept_iff (codec : JsonCodec) (laws : codec.ReadsJson) :
    (∀ (text : String) (fragments : List String) (entry : ChatToolCallState),
      JsonText text.toList → joined fragments = text.toList → entry.arguments = "" →
        (mergeFragments codec entry fragments).arguments = text ∧
          ∀ before fragment after, fragments = before ++ fragment :: after →
            (mergeToolCallArguments codec (mergeFragments codec entry before) fragment true).2 =
              .appended) ∧
      ∀ raw : String, Normalizes codec raw ↔ TrimsBlanks codec raw :=
  ⟨fun _ _ _ whole split empty => mergeFragments_of_text laws empty whole split,
    normalizes_iff laws⟩

def isBlankChar (char : Char) : Bool := char ∈ [' ', '\t', '\n', '\r']

/-- Reads `\x7b\x7d`, with blanks around it, and nothing else. -/
def blankObjectCodec : JsonCodec :=
  serdeCodec fun text =>
    if strip isBlankChar text.toList = ['\x7b', '\x7d'] then [some (.object [])]
    else if strip isBlankChar text.toList = [] then []
    else [none]

theorem blankObjectCodec_reads {text : String} :
    blankObjectCodec.reads text = true ↔ strip isBlankChar text.toList = ['\x7b', '\x7d'] := by
  unfold blankObjectCodec JsonCodec.reads serdeCodec
  by_cases whole : strip isBlankChar text.toList = ['\x7b', '\x7d']
  · simp [whole]
  · by_cases empty : strip isBlankChar text.toList = [] <;> simp [whole, empty]

theorem isBlankChar_iff {text : List Char} :
    Blank text ↔ ∀ char ∈ text, isBlankChar char = true := by
  simp [Blank, isBlankChar]

theorem dropWhile_blank {blank : List Char} (isBlank : Blank blank) (rest : List Char) :
    (blank ++ rest).dropWhile isBlankChar = rest.dropWhile isBlankChar :=
  List.dropWhile_append_of_pos (isBlankChar_iff.1 isBlank)

theorem strip_blanks {before text after : List Char} (blankBefore : Blank before)
    (blankAfter : Blank after) :
    strip isBlankChar (before ++ text ++ after) = strip isBlankChar text := by
  have blankReversed : Blank after.reverse :=
    fun char member => blankAfter char (List.mem_reverse.1 member)
  have noneLeft : after.dropWhile isBlankChar = [] := by
    simpa using dropWhile_blank blankAfter []
  unfold strip
  rw [List.append_assoc, dropWhile_blank blankBefore, List.dropWhile_append]
  split
  next empty =>
    rw [List.isEmpty_iff.1 empty, noneLeft]
  · rw [List.reverse_append, dropWhile_blank blankReversed]

theorem blank_of_strip {text : List Char} (empty : strip isBlankChar text = []) : Blank text := by
  have parts := strip_split isBlankChar text
  rw [empty, List.append_nil] at parts
  rw [isBlankChar_iff, parts]
  intro char member
  rcases List.mem_append.1 member with front | back
  · exact List.mem_takeWhile_imp front
  · exact List.mem_takeWhile_imp (List.mem_reverse.1 back)

theorem blankObjectCodec_laws : blankObjectCodec.ReadsJson where
  sound text reads := by
    rw [blankObjectCodec_reads] at reads
    have parts := strip_split isBlankChar text.toList
    rw [reads] at parts
    rw [parts]
    have noBlank : Blank [] := fun char member => by cases member
    refine .element (isBlankChar_iff.2 fun char => List.mem_takeWhile_imp) (.emptyObject noBlank)
      (isBlankChar_iff.2 fun char member => ?_)
    exact List.mem_takeWhile_imp (List.mem_reverse.1 member)
  single text whole := by
    have filled : strip isBlankChar text.toList ≠ [] := by
      intro empty
      have blank := isWhitespace_of_blank (blank_of_strip empty)
      refine (takenOff_of_text whole).2.2 ?_
      have none : text.toList.dropWhile Text.isWhitespace = [] :=
        List.dropWhile_eq_nil_iff.2 blank
      rw [Text.trim, none]
      rfl
    unfold blankObjectCodec serdeCodec
    dsimp only
    split
    · exact .inr ⟨_, rfl⟩
    · exact .inl rfl
  blanks before text after blankBefore blankAfter := by
    rw [Bool.eq_iff_iff, blankObjectCodec_reads, blankObjectCodec_reads, String.toList_ofList,
      String.toList_ofList, strip_blanks blankBefore blankAfter]
  printed text value member := by
    unfold blankObjectCodec serdeCodec at member
    dsimp only at member
    split at member
    · obtain rfl := Option.some.inj (List.mem_singleton.1 member)
      decide
    · split at member
      · cases member
      · cases List.mem_singleton.1 member
  emptyObject := by decide

theorem tool_arguments_kept_iff_object :
    (mergeFragments blankObjectCodec { itemId := "", callId := "", outputIndex := 0, name := none }
      ["\x7b", " \x7d"]).arguments = "\x7b \x7d" ∧
      Normalizes blankObjectCodec " \x7b\x7d\n" := by
  obtain ⟨merges, normalizes⟩ := tool_arguments_kept_iff blankObjectCodec blankObjectCodec_laws
  have object : JsonText "\x7b \x7d".toList :=
    @Spells.element [] _ [] (by decide) (@Spells.emptyObject [' '] (by decide)) (by decide)
  refine ⟨(merges "\x7b \x7d" _ _ object (by decide) rfl).1, (normalizes _).2 fun _ => ?_⟩
  decide

-- The no-break space is trimmed off before the text is read, and is there again in the result.
theorem noBreakSpace_is_kept : ¬ ∀ codec : JsonCodec, codec.ReadsJson →
    ∀ raw : String, Normalizes codec raw := by
  intro claimed
  have normalizes := claimed blankObjectCodec blankObjectCodec_laws "\u00a0\x7b\x7d"
  have reads := normalizes.reads (by decide)
  exact absurd reads (by decide)

end ChatGateway
