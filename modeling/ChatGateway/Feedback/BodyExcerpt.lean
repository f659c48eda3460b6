import ChatGateway.Feedback.Redaction

set_option autoImplicit false

/-!
# Body excerpts

The excerpt of an upstream's error text that a client is shown. Marked letters tell which part of a
secret value reaches it.
-/

namespace ChatGateway

def collapseWhitespace (raw : Text) : Text :=
  Text.join [' '] ((raw.splitOnP Text.isWhitespace).filter fun word => word ≠ [])

section Excerpts

variable {A : Type} (script : Alphabet A)

def trimLetters (letters : List A) : List A :=
  let isSpace := fun letter => Text.isWhitespace (script.read letter)
  ((letters.dropWhile isSpace).reverse.dropWhile isSpace).reverse

def excerptLetters (maxChars : Nat) (collapsed : List A) : Option (List A) :=
  let redacted := trimLetters script (redactLetters script collapsed)
  if redacted.isEmpty || maxChars == 0 then none
  else if redacted.length ≤ maxChars then some redacted
  else some (redacted.take maxChars ++ [script.write '…'])

end Excerpts

def sanitizeUpstreamBodyExcerpt (raw : Text) (maxChars : Nat) : Option Text :=
  excerptLetters plainScript maxChars (collapseWhitespace raw)

def markedScript : Alphabet (Char × Bool) :=
  { read := Prod.fst, write := fun letter => (letter, false), read_write := fun _ => rfl }

def spellSecret (text : Text) : List (Char × Bool) :=
  text.map fun letter => (letter, true)

def pairText (key rest : Text) : Text :=
  '"' :: (key ++ '"' :: ':' :: '"' :: rest)

/-- The value that a JSON string's opening quote begins: up to the first quote that is not escaped,
or all of a text that is cut off. -/
def jsonValue : Text → Text
  | [] => []
  | '"' :: _ => []
  | '\\' :: escaped :: rest => '\\' :: escaped :: jsonValue rest
  | letter :: rest => letter :: jsonValue rest

def markValue (front key rest : Text) : List (Char × Bool) :=
  markedScript.spell (front ++ pairText key []) ++ spellSecret (jsonValue rest) ++
    markedScript.spell (rest.drop (jsonValue rest).length)

structure ExcerptHides (raw : Text) (maxChars : Nat) : Prop where
  keys : ∀ shown, sanitizeUpstreamBodyExcerpt raw maxChars = some shown →
    ∀ front word rest, shown = front ++ word ++ rest → ¬ IsKey word
  bearers : ∀ shown, sanitizeUpstreamBodyExcerpt raw maxChars = some shown →
    ∀ front word rest, shown = front ++ word ++ rest → ¬ IsBearer word
  values : ∀ front key rest, collapseWhitespace raw = front ++ pairText key rest →
    IsSecretKey key → ∀ shown, excerptLetters markedScript maxChars (markValue front key rest) =
      some shown → ∀ letter ∈ shown, letter.2 = false
  bounded : ∀ shown, sanitizeUpstreamBodyExcerpt raw maxChars = some shown →
    shown.length ≤ maxChars + 1
  again : ∀ text, redactUpstreamBodySecrets (redactUpstreamBodySecrets text) =
    redactUpstreamBodySecrets text

def IsTaken (body key rest : Text) : Prop :=
  Scanner.Stands (secretPair plainScript) body (pairText key rest) ∧ '"' ∈ rest

def IsHidden (part : Text) : Prop := part = [] ∨ IsCredential part

/-- Of every secret value, what stands behind its first quote is nothing or one credential, and so
is the whole value of a pair that is not taken. -/
structure PairsHidden (body : Text) : Prop where
  taken : ∀ front key rest, body = front ++ pairText key rest → IsSecretKey key →
    IsTaken body key rest → IsHidden ((jsonValue rest).dropWhile fun letter => letter ≠ '"').tail
  passed : ∀ front key rest, body = front ++ pairText key rest → IsSecretKey key →
    ¬ IsTaken body key rest → IsHidden (jsonValue rest)

section Marks

variable {A : Type} (script : Alphabet A)

-- A cut takes a span away. Its piece is made of letters of the span and of written ones.
theorem piece_of_span {letters piece behind : List A}
    (found : redactShape script letters = some (piece, behind)) :
    ∃ span, letters = span ++ behind ∧ ∀ Good : A → Prop, (∀ letter, Good (script.write letter)) →
      (∀ letter ∈ span, Good letter) → ∀ letter ∈ piece, Good letter := by
  have spelled (Good : A → Prop) (write : ∀ letter, Good (script.write letter)) (text : Text) :
      ∀ letter ∈ script.spell text, Good letter := by
    intro letter member
    obtain ⟨known, -, rfl⟩ := List.mem_map.1 member
    exact write known
  rcases redactShape_cases script found with ⟨word, rfl, -, rfl, -⟩ | ⟨-, span⟩
  · exact ⟨word, rfl, fun Good write _ => spelled Good write _⟩
  · cases span with
    | @mk quote closing colon opening last key value behind =>
      refine ⟨quote :: (key ++ closing :: colon :: opening :: (value ++ [last])), by simp, ?_⟩
      intro Good write good
      simp only [List.forall_mem_cons, List.forall_mem_append] at good ⊢
      exact ⟨good.1, good.2.1, good.2.2.1, spelled Good write _⟩

theorem piece_written {Good : A → Prop} (write : ∀ letter, Good (script.write letter))
    {letters piece behind : List A} (found : redactShape script letters = some (piece, behind))
    (good : ∀ letter ∈ letters, Good letter) : ∀ letter ∈ piece, Good letter := by
  obtain ⟨span, rfl, made⟩ := piece_of_span script found
  exact made Good write fun letter member => good letter (List.mem_append_left _ member)

theorem first_shown {letter : A} {rest out : List A}
    (reading : Scanner.Reading (redactShape script) (letter :: rest) out)
    (none : credential script (letter :: rest) = none) : letter ∈ out := by
  generalize whole : letter :: rest = letters at reading none
  cases reading with
  | done => cases whole
  | cut found after =>
    rcases redactShape_cases script found with ⟨word, rfl, shape, -⟩ | ⟨-, span⟩
    · exact absurd (List.prefix_append _ _)
        (script.text_append _ _ ▸ (credential_eq_none script).1 none _ shape)
    · cases span with
      | mk =>
        obtain ⟨rfl, -⟩ := List.cons.inj whole
        exact List.mem_append_left _ List.mem_cons_self
  | copy missing after =>
    obtain ⟨rfl, rfl⟩ := List.cons.inj whole
    exact List.mem_cons_self

theorem isAlphanum_of_asciiLower {letter : Char} (lowered : asciiLower letter = 'b') :
    letter.isAlphanum := by
  unfold asciiLower at lowered
  split at lowered
  · next upper =>
    have isUpper : letter.isUpper = true := decide_eq_true upper
    show (letter.isUpper || letter.isLower || letter.isDigit) = true
    rw [isUpper, Bool.true_or, Bool.true_or]
  · rw [lowered]
    decide

theorem IsCredential.head {letter : Char} {word : Text} (shape : IsCredential (letter :: word)) :
    letter.isAlphanum := by
  rcases shape with ⟨run, spelled, -⟩ | ⟨name, token, spelled, named, -⟩
  · obtain ⟨rfl, -⟩ := List.cons.inj spelled
    decide
  · obtain ⟨first, name, rfl, lowered, -⟩ := List.map_eq_cons_iff.1 named
    obtain ⟨rfl, -⟩ := List.cons.inj spelled
    exact isAlphanum_of_asciiLower lowered

end Marks

def Unmarked (letters : List (Char × Bool)) : Prop := ∀ letter ∈ letters, letter.2 = false

theorem unmarked_spell (text : Text) : Unmarked (markedScript.spell text) := by
  intro letter member
  obtain ⟨known, -, rfl⟩ := List.mem_map.1 member
  rfl

theorem unmarked_read {letters out : List (Char × Bool)}
    (reading : Scanner.Reading (redactShape markedScript) letters out)
    (unmarked : Unmarked letters) : Unmarked out :=
  Scanner.Reading.letters (redactShape_cuts markedScript) (fun letter => letter.2 = false)
    (piece_written markedScript fun _ => rfl) reading unmarked

@[simp] theorem text_spellSecret (text : Text) : markedScript.text (spellSecret text) = text := by
  simp [Alphabet.text, spellSecret, markedScript, Function.comp_def]

theorem ended_spell {behind : Text} (ended : ∀ letter ∈ behind.head?, letter = '"') :
    ∀ letter ∈ (markedScript.spell behind).head?, markedScript.read letter = '"' := by
  cases behind with
  | nil =>
    intro head first
    cases first
  | cons letter rest =>
    intro head first
    obtain rfl := Option.some.inj first
    exact ended letter rfl

-- A text without quotes at the head of a part that a quote ends lies inside the part.
theorem inside_part {A : Type} (script : Alphabet A) {part behind word tail : List A}
    (parted : part ++ behind = word ++ tail)
    (ended : ∀ letter ∈ behind.head?, script.read letter = '"')
    (inside : '"' ∉ script.text word) :
    ∃ more, part = word ++ more ∧ tail = more ++ behind := by
  rcases List.append_eq_append_iff.1 parted with ⟨more, rfl, rfl⟩ | ⟨more, rfl, rfl⟩
  · cases more with
    | nil => exact ⟨[], by simp⟩
    | cons letter more =>
      refine absurd ?_ inside
      rw [← ended letter rfl, script.text_append, script.text_cons]
      simp
  · exact ⟨more, rfl, rfl⟩

-- A marked part between quotes does not reach the output exactly when it is empty or one
-- credential.
theorem unmarked_iff_hidden {part behind : Text} (ended : ∀ letter ∈ behind.head?, letter = '"')
    {out : List (Char × Bool)}
    (reading : Scanner.Reading (redactShape markedScript)
      (spellSecret part ++ markedScript.spell behind) out) : Unmarked out ↔ IsHidden part := by
  have text (left : Text) : markedScript.text (spellSecret left ++ markedScript.spell behind) =
      left ++ behind := by
    rw [Alphabet.text_append, text_spellSecret, Alphabet.text_spell]
  have quoted := ended_spell ended
  have shown {letter : Char} {rest : Text} {out : List (Char × Bool)}
      (reading : Scanner.Reading (redactShape markedScript)
        (spellSecret (letter :: rest) ++ markedScript.spell behind) out)
      (none : credential markedScript (spellSecret (letter :: rest) ++ markedScript.spell behind) =
        none) : ¬ Unmarked out := by
    intro unmarked
    cases unmarked (letter, true) (first_shown markedScript reading none)
  cases part with
  | nil =>
    exact ⟨fun _ => .inl rfl, fun _ => unmarked_read reading (unmarked_spell behind)⟩
  | cons letter rest =>
    cases found : credential markedScript (spellSecret (letter :: rest) ++
        markedScript.spell behind) with
    | none =>
      refine iff_of_false (shown reading found) ?_
      rintro (empty | shape)
      · cases empty
      · refine (credential_eq_none markedScript).1 found _ shape ?_
        rw [text]
        exact List.prefix_append _ _
    | some cut =>
      obtain ⟨piece, tail⟩ := cut
      have whole : redactShape markedScript (spellSecret (letter :: rest) ++
          markedScript.spell behind) = some (piece, tail) := by
        rw [redactShape, found]
        rfl
      obtain ⟨left, rfl, after⟩ := reading.of_cut (redactShape_cuts markedScript) whole
      obtain ⟨word, parted, shape, rfl, stops⟩ := credential_span markedScript found
      obtain ⟨more, split, rfl⟩ := inside_part markedScript parted quoted
        fun quote => shape.outside _ quote (by decide)
      obtain ⟨own, later, same, rfl, rfl⟩ := List.map_eq_append_iff.1 split
      change IsCredential (markedScript.text (spellSecret own)) at shape
      change Scanner.Reading _ (spellSecret later ++ markedScript.spell behind) left at after
      rw [text_spellSecret] at shape
      cases later with
      | nil =>
        rw [List.append_nil] at same
        refine iff_of_true (List.forall_mem_append.2 ⟨unmarked_spell _, ?_⟩) (.inr (same ▸ shape))
        exact unmarked_read after (unmarked_spell _)
      | cons next later =>
        have none : credential markedScript (spellSecret (next :: later) ++
            markedScript.spell behind) = none := by
          refine (credential_eq_none markedScript).2 fun word shape front => ?_
          rw [text] at front
          cases word with
          | nil => exact shape.ne_nil rfl
          | cons head word =>
            obtain ⟨rfl, -⟩ := List.cons_prefix_cons.1 front
            have other : head.isAlphanum = false := stops (head, true) rfl
            rw [shape.head] at other
            cases other
        refine iff_of_false (fun unmarked => shown after none fun letter member => ?_) ?_
        · exact unmarked letter (List.mem_append_right _ member)
        · rintro (empty | whole)
          · cases empty
          · have one : credential markedScript (spellSecret (letter :: rest) ++
                markedScript.spell behind) = some (_, markedScript.spell behind) :=
              credential_ended markedScript (by rw [text_spellSecret]; exact whole) quoted
            obtain ⟨-, same⟩ := Prod.mk.inj (Option.some.inj (found.symm.trans one))
            have longer := congrArg List.length same
            rw [List.length_append, List.length_map, List.length_cons] at longer
            omega

theorem stands_cons {letter : Char} {text rest : Text} (other : letter ≠ '"') :
    Scanner.Stands (secretPair plainScript) (letter :: text) ('"' :: rest) ↔
      Scanner.Stands (secretPair plainScript) text ('"' :: rest) := by
  have none := secretPair_none plainScript other text
  refine ⟨fun stands => ?_, .copy none⟩
  cases stands with
  | here => exact absurd rfl other
  | cut found _ =>
    rw [none] at found
    cases found
  | copy _ after => exact after

theorem stands_append {word text rest : Text} (inside : '"' ∉ word) :
    Scanner.Stands (secretPair plainScript) (word ++ text) ('"' :: rest) ↔
      Scanner.Stands (secretPair plainScript) text ('"' :: rest) := by
  induction word with
  | nil => rfl
  | cons letter word ih =>
    obtain ⟨head, later⟩ : '"' ≠ letter ∧ '"' ∉ word := by simpa using inside
    rw [List.cons_append, stands_cons (Ne.symm head), ih later]

-- Credentials have no quotes, so a quote is reached in a scan for all shapes when it is in a scan
-- for pairs alone.
theorem reading_at {A : Type} (script : Alphabet A) {letters out : List A} {rest : Text}
    (reading : Scanner.Reading (redactShape script) letters out)
    (stands : Scanner.Stands (secretPair plainScript) (script.text letters) ('"' :: rest)) :
    ∃ before after early late, letters = before ++ after ∧ script.text after = '"' :: rest ∧
      out = early ++ late ∧ Scanner.Reading (redactShape script) after late ∧
      ∀ Good : A → Prop, (∀ letter, Good (script.write letter)) → (∀ letter ∈ before, Good letter) →
        ∀ letter ∈ early, Good letter := by
  induction reading with
  | done =>
    cases stands with
    | cut found _ => cases found
  | @cut letters piece behind out found following ih =>
    by_cases here : script.text letters = '"' :: rest
    · exact ⟨[], letters, [], piece ++ out, rfl, here, rfl, .cut found following,
        fun _ _ good => good⟩
    · have ahead : Scanner.Stands (secretPair plainScript) (script.text behind) ('"' :: rest) := by
        rcases redactShape_cases script found with ⟨word, rfl, shape, -⟩ | ⟨-, span⟩
        · rw [script.text_append] at stands
          exact (stands_append fun quote => shape.outside _ quote (by decide)).1 stands
        · have plain := secretPair_text script letters
          rw [secretPair_of_span script span] at plain
          generalize script.text letters = text at stands here plain
          cases stands with
          | here => exact absurd rfl here
          | cut again after =>
            obtain ⟨-, rfl⟩ := Prod.mk.inj (Option.some.inj (again.symm.trans plain))
            exact after
          | copy none _ => cases none.symm.trans plain
      obtain ⟨span, rfl, made⟩ := piece_of_span script found
      obtain ⟨before, after, early, late, rfl, read, rfl, reading, kept⟩ := ih ahead
      refine ⟨span ++ before, after, piece ++ early, late, (List.append_assoc ..).symm, read,
        (List.append_assoc ..).symm, reading, fun Good write good => ?_⟩
      obtain ⟨first, later⟩ := List.forall_mem_append.1 good
      exact List.forall_mem_append.2 ⟨made Good write first, kept Good write later⟩
  | @copy letter letters out missing following ih =>
    by_cases here : script.text (letter :: letters) = '"' :: rest
    · exact ⟨[], _, [], letter :: out, rfl, here, rfl, .copy missing following,
        fun _ _ good => good⟩
    · have none : secretPair plainScript (script.text (letter :: letters)) = none := by
        rw [secretPair_text, ((redactShape_eq_none script).1 missing).2]
        rfl
      have ahead : Scanner.Stands (secretPair plainScript) (script.text letters) ('"' :: rest) := by
        generalize whole : script.text (letter :: letters) = text at stands here none
        cases stands with
        | here => exact absurd rfl here
        | cut found _ => cases none.symm.trans found
        | copy _ after =>
          obtain ⟨-, rfl⟩ := List.cons.inj whole
          exact after
      obtain ⟨before, after, early, late, rfl, read, rfl, reading, kept⟩ := ih ahead
      refine ⟨letter :: before, after, letter :: early, late, rfl, read, rfl, reading,
        fun Good write good => ?_⟩
      obtain ⟨first, later⟩ := List.forall_mem_cons.1 good
      exact List.forall_mem_cons.2 ⟨first, kept Good write later⟩

theorem stands_from_key {key rest : Text} (secret : IsSecretKey key) :
    Scanner.Stands (secretPair plainScript) (key ++ '"' :: ':' :: '"' :: rest) ('"' :: rest) := by
  have none : secretPair plainScript ('"' :: ':' :: '"' :: rest) = none := by
    cases found : secretPair plainScript ('"' :: ':' :: '"' :: rest) with
    | none => rfl
    | some cut =>
      obtain ⟨piece, behind⟩ := cut
      have span := span_of_secretPair plainScript found
      generalize whole : '"' :: ':' :: '"' :: rest = text at span
      cases span with
      | @mk quote closing colon opening last name value behind _ secret =>
        cases name with
        | nil => exact absurd rfl secret.ne_nil
        | cons letter name =>
          obtain ⟨-, tail⟩ := List.cons.inj whole
          obtain ⟨rfl, -⟩ := List.cons.inj tail
          exact absurd (by decide) (secret.plain ':' List.mem_cons_self)
  exact (stands_append secret.noQuote).2 (.copy none ((stands_cons (by decide)).2 (.here _)))

-- The scan comes to every pair's opening quote or, past it, to the quote that opens its value.
theorem stands_pair {key rest : Text} (secret : IsSecretKey key) (front : Text) :
    Scanner.Stands (secretPair plainScript) (front ++ pairText key rest) (pairText key rest) ∨
      Scanner.Stands (secretPair plainScript) (front ++ pairText key rest) ('"' :: rest) := by
  generalize size : front.length = length
  induction length using Nat.strong_induction_on generalizing front with
  | _ length ih =>
    cases front with
    | nil => exact .inl (.here _)
    | cons letter front =>
      cases found : secretPair plainScript (letter :: (front ++ pairText key rest)) with
      | none =>
        rw [List.length_cons] at size
        rcases ih front.length (by omega) front rfl with at_pair | at_value
        · exact .inl (.copy found at_pair)
        · exact .inr (.copy found at_value)
      | some cut =>
        obtain ⟨piece, behind⟩ := cut
        have span := span_of_secretPair plainScript found
        generalize taken : letter :: (front ++ pairText key rest) = text at span
        cases span with
        | @mk quote closing colon opening last name value behind _ secretName readClosing readColon
            readOpening inside readLast =>
          obtain ⟨-, same⟩ := List.cons.inj taken
          obtain rfl : closing = '"' := readClosing
          obtain rfl : colon = ':' := readColon
          obtain rfl : opening = '"' := readOpening
          obtain rfl : last = '"' := readLast
          rw [text_plain] at secretName inside
          -- The pair's opening quote lies behind each of the span's quotes, or is one of them.
          rcases Scanner.first_parts secretName.noQuote same.symm with
            ⟨rfl, colonFirst⟩ | ⟨more, rfl, colonFirst⟩
          · cases key with
            | nil => exact absurd rfl secret.ne_nil
            | cons head key =>
              obtain ⟨rfl, -⟩ := List.cons.inj colonFirst
              exact absurd (by decide) (secret.plain ':' List.mem_cons_self)
          cases more with
          | nil => cases colonFirst
          | cons head more =>
            obtain ⟨rfl, quoteFirst⟩ := List.cons.inj colonFirst
            rcases Scanner.first_parts (List.not_mem_nil) quoteFirst with
              ⟨rfl, valueFirst⟩ | ⟨more, rfl, valueFirst⟩
            · rcases Scanner.first_parts inside valueFirst with ⟨rfl, rfl⟩ | ⟨_, rfl, -⟩
              · exact .inr (.cut found ((stands_cons (by decide)).2 (.here _)))
              · exact absurd (by simp) secret.noQuote
            · rcases Scanner.first_parts inside valueFirst with ⟨rfl, rfl⟩ | ⟨later, rfl, rfl⟩
              · exact .inr (.cut found (stands_from_key secret))
              · simp only [List.length_cons, List.length_append] at size
                rcases ih later.length (by omega) later rfl with at_pair | at_value
                · exact .inl (.cut found at_pair)
                · exact .inr (.cut found at_value)

theorem stands_value {body front key rest : Text} (whole : body = front ++ pairText key rest)
    (secret : IsSecretKey key) (passed : ¬ IsTaken body key rest) :
    Scanner.Stands (secretPair plainScript) body ('"' :: rest) := by
  subst whole
  rcases stands_pair secret front with at_pair | at_value
  · have unclosed : '"' ∉ rest := fun closed => passed ⟨at_pair, closed⟩
    have none : secretPair plainScript (pairText key rest) = none := by
      cases found : secretPair plainScript (pairText key rest) with
      | none => rfl
      | some cut =>
        obtain ⟨piece, behind⟩ := cut
        have span := span_of_secretPair plainScript found
        generalize taken : pairText key rest = text at span
        cases span with
        | @mk quote closing colon opening last name value behind _ secretName readClosing _ _ _
            readLast =>
          obtain ⟨-, same⟩ := List.cons.inj taken
          obtain rfl : closing = '"' := readClosing
          obtain rfl : last = '"' := readLast
          rw [text_plain] at secretName
          rcases Scanner.first_parts secret.noQuote same with ⟨-, parted⟩ | ⟨more, rfl, -⟩
          · simp only [List.cons.injEq] at parted
            exact absurd (parted.2.2 ▸ by simp) unclosed
          · exact absurd (by simp) secretName.noQuote
    exact at_pair.trans (.copy none (stands_from_key secret))
  · exact at_value

theorem jsonValue_append (rest : Text) :
    ∃ behind, rest = jsonValue rest ++ behind ∧ ∀ letter ∈ behind.head?, letter = '"' := by
  fun_induction jsonValue rest with
  | case1 => exact ⟨[], rfl, fun letter first => by cases first⟩
  | case2 rest =>
    refine ⟨'"' :: rest, rfl, fun letter first => ?_⟩
    exact (Option.some.inj first).symm
  | case3 escaped rest ih =>
    obtain ⟨behind, whole, ended⟩ := ih
    exact ⟨behind, by rw [List.cons_append, List.cons_append, ← whole], ended⟩
  | case4 letter rest _ _ ih =>
    obtain ⟨behind, whole, ended⟩ := ih
    exact ⟨behind, by rw [List.cons_append, ← whole], ended⟩

-- Behind unmarked letters it is the reading from a reached quote on that shows a mark.
theorem unmarked_from {front : Text} {letters : List (Char × Bool)} {rest : Text}
    (read : markedScript.text letters = '"' :: rest)
    (stands : Scanner.Stands (secretPair plainScript) (front ++ '"' :: rest) ('"' :: rest)) :
    ∃ left, Scanner.Reading (redactShape markedScript) letters left ∧
      (Unmarked (redactLetters markedScript (markedScript.spell front ++ letters)) ↔
        Unmarked left) := by
  have reading := reading_redactLetters markedScript (markedScript.spell front ++ letters)
  have whole : markedScript.text (markedScript.spell front ++ letters) = front ++ '"' :: rest := by
    rw [markedScript.text_append, markedScript.text_spell, read]
  rw [← whole] at stands
  obtain ⟨before, after, early, late, parted, sameText, written, following, kept⟩ :=
    reading_at markedScript reading stands
  have sizes : letters.length = after.length := by
    have known := congrArg List.length (read.trans sameText.symm)
    rwa [Alphabet.length_text, Alphabet.length_text] at known
  obtain ⟨rfl, rfl⟩ := List.append_inj' parted sizes
  refine ⟨late, following, ?_⟩
  have unmarked : Unmarked early := kept (fun letter => letter.2 = false) (fun _ => rfl)
    (unmarked_spell front)
  rw [written]
  exact List.forall_mem_append.trans (and_iff_right unmarked)

section Values

variable {front key rest behind : Text} (parted : rest = jsonValue rest ++ behind)
  (ended : ∀ letter ∈ behind.head?, letter = '"') (secret : IsSecretKey key)
include parted

theorem markValue_eq : markValue front key rest =
    markedScript.spell (front ++ pairText key []) ++ spellSecret (jsonValue rest) ++
      markedScript.spell behind := by
  have dropped : rest.drop (jsonValue rest).length = behind :=
    calc
      rest.drop (jsonValue rest).length
          = (jsonValue rest ++ behind).drop (jsonValue rest).length := by rw [← parted]
      _ = behind := List.drop_left
  rw [markValue, dropped]

theorem text_markValue : markedScript.text (markValue front key rest) =
    front ++ pairText key rest := by
  rw [markValue_eq parted]
  simp [pairText, ← parted]

include ended secret

theorem unmarked_iff_taken (taken : IsTaken (front ++ pairText key rest) key rest) :
    Unmarked (redactLetters markedScript (markValue front key rest)) ↔
      IsHidden ((jsonValue rest).dropWhile fun letter => letter ≠ '"').tail := by
  obtain ⟨stands, closed⟩ := taken
  have read : markedScript.text (markedScript.spell (pairText key []) ++
      (spellSecret (jsonValue rest) ++ markedScript.spell behind)) = pairText key rest := by
    rw [markedScript.text_append, markedScript.text_append, markedScript.text_spell,
      markedScript.text_spell, text_spellSecret, ← parted]
    simp [pairText]
  obtain ⟨left, reading, same⟩ := unmarked_from read stands
  rw [markValue_eq parted, Alphabet.spell, List.map_append, List.append_assoc, List.append_assoc]
  refine same.trans ?_
  have closedMarks : '"' ∈ markedScript.text (spellSecret (jsonValue rest) ++
      markedScript.spell behind) := by
    rw [markedScript.text_append, text_spellSecret, markedScript.text_spell, ← parted]
    exact closed
  obtain ⟨value, last, tail, ends, inside, readLast, span⟩ := exists_span markedScript
    (markedScript.read_write '"') ((markedScript.text_spell key).symm ▸ secret)
    (markedScript.read_write '"') (markedScript.read_write ':') (markedScript.read_write '"')
    closedMarks
  have shape : redactShape markedScript (markedScript.spell (pairText key []) ++
      (spellSecret (jsonValue rest) ++ markedScript.spell behind)) =
        some (markedScript.spell ('"' :: (key ++ '"' :: redactedValue)), tail) := by
    have head := credential_none_of_quote markedScript (markedScript.read_write '"')
      (markedScript.spell (key ++ ['"', ':', '"']) ++
        (spellSecret (jsonValue rest) ++ markedScript.spell behind))
    rw [redactShape]
    simp only [pairText, Alphabet.spell, List.map_cons, List.map_append, List.map_nil,
      List.cons_append, List.append_assoc, List.nil_append] at head span ⊢
    rw [head]
    exact secretPair_of_span markedScript span
  obtain ⟨later, rfl, after⟩ := reading.of_cut (redactShape_cuts markedScript) shape
  refine (List.forall_mem_append.trans (and_iff_right (unmarked_spell _))).trans ?_
  obtain ⟨more, split, ahead⟩ := inside_part markedScript ends (ended_spell ended) inside
  obtain ⟨own, others, parts, rfl, rfl⟩ := List.map_eq_append_iff.1 split
  change '"' ∉ markedScript.text (spellSecret own) at inside
  rw [text_spellSecret] at inside
  have through : ∀ letter ∈ own, decide (letter ≠ '"') = true := by
    intro letter member
    rw [decide_eq_true_eq]
    rintro rfl
    exact inside member
  rw [parts, List.dropWhile_append_of_pos through]
  cases others with
  | nil =>
    refine iff_of_true (unmarked_read after fun letter member => ?_) (.inl rfl)
    refine unmarked_spell behind letter ?_
    rw [← List.nil_append (markedScript.spell behind), ← List.map_nil, ← ahead]
    exact List.mem_cons_of_mem _ member
  | cons letter others =>
    obtain ⟨rfl, rfl⟩ := List.cons.inj ahead
    obtain rfl : letter = '"' := readLast
    exact unmarked_iff_hidden ended after

theorem unmarked_iff_passed (passed : ¬ IsTaken (front ++ pairText key rest) key rest) :
    Unmarked (redactLetters markedScript (markValue front key rest)) ↔
      IsHidden (jsonValue rest) := by
  have stands := stands_value rfl secret passed
  have read : markedScript.text (markedScript.write '"' :: (spellSecret (jsonValue rest) ++
      markedScript.spell behind)) = '"' :: rest := by
    rw [markedScript.text_cons, markedScript.read_write, markedScript.text_append,
      text_spellSecret, markedScript.text_spell, ← parted]
  have before : front ++ pairText key rest =
      (front ++ '"' :: (key ++ ['"', ':'])) ++ '"' :: rest := by simp [pairText]
  rw [before] at stands
  obtain ⟨left, reading, same⟩ := unmarked_from read stands
  have marks : markValue front key rest =
      markedScript.spell (front ++ '"' :: (key ++ ['"', ':'])) ++
        (markedScript.write '"' ::
          (spellSecret (jsonValue rest) ++ markedScript.spell behind)) := by
    rw [markValue_eq parted]
    simp [pairText, Alphabet.spell]
  rw [marks, same]
  have quote : markedScript.read (markedScript.write '"') = '"' := rfl
  have quoted := ended_spell ended
  cases found : secretPair markedScript (markedScript.write '"' ::
      (spellSecret (jsonValue rest) ++ markedScript.spell behind)) with
  | none =>
    have missing := (redactShape_eq_none markedScript).2
      ⟨credential_none_of_quote markedScript quote _, found⟩
    obtain ⟨value, rfl, after⟩ := reading.of_copy missing
    rw [← unmarked_iff_hidden ended after]
    exact List.forall_mem_cons.trans (and_iff_right rfl)
  | some cut =>
    obtain ⟨piece, tail⟩ := cut
    have shape : redactShape markedScript (markedScript.write '"' ::
        (spellSecret (jsonValue rest) ++ markedScript.spell behind)) = some (piece, tail) := by
      rw [redactShape, credential_none_of_quote markedScript quote]
      exact found
    obtain ⟨later, rfl, after⟩ := reading.of_cut (redactShape_cuts markedScript) shape
    have span := span_of_secretPair markedScript found
    generalize taken : markedScript.write '"' ::
      (spellSecret (jsonValue rest) ++ markedScript.spell behind) = letters at span
    cases span with
    | @mk opening closing colon next last name value tail _ secretName readClosing =>
      obtain ⟨-, inner⟩ := List.cons.inj taken
      obtain ⟨more, split, closed⟩ := inside_part markedScript inner quoted secretName.noQuote
      obtain ⟨own, others, parts, rfl, rfl⟩ := List.map_eq_append_iff.1 split
      change IsSecretKey (markedScript.text (spellSecret own)) at secretName
      rw [text_spellSecret] at secretName
      -- The value is read as the name of the next pair, and a name is copied.
      refine iff_of_false (fun unmarked => ?_) ?_
      · cases own with
        | nil => exact secretName.ne_nil rfl
        | cons letter own => cases unmarked (letter, true) (by simp)
      · rintro (empty | hidden)
        · rw [parts] at empty
          exact secretName.ne_nil (List.append_eq_nil_iff.1 empty).1
        · rw [parts] at hidden
          cases others with
          | nil =>
            rw [List.append_nil] at hidden
            obtain ⟨header, start, letter, member, told⟩ := hidden.header
            have separator : ∀ mark ∈ ['-', ' '], mark ∈ separators := by simp [separators]
            exact secretName.lowered letter (start.subset member) (separator _ told)
          | cons letter others =>
            obtain ⟨rfl, -⟩ := List.cons.inj closed
            obtain rfl : letter = '"' := readClosing
            exact hidden.outside '"' (by simp) (by decide)

end Values

def Solid (text : Text) : Prop :=
  (∀ letter ∈ text.head?, Text.isWhitespace letter = false) ∧
    ∀ letter ∈ text.getLast?, Text.isWhitespace letter = false

theorem clean_pieces (text front : Text)
    (clean : ∀ letter ∈ front, Text.isWhitespace letter = false) :
    ∀ piece ∈ List.splitOnPPrepend Text.isWhitespace text front,
      ∀ letter ∈ piece, Text.isWhitespace letter = false := by
  induction text generalizing front with
  | nil => simpa using clean
  | cons letter rest ih =>
    intro piece listed
    cases space : Text.isWhitespace letter with
    | true =>
      rw [List.splitOnPPrepend_cons_pos space] at listed
      rcases List.mem_cons.1 listed with rfl | listed
      · simpa using clean
      · exact ih [] (List.forall_mem_nil _) piece listed
    | false =>
      rw [List.splitOnPPrepend_cons_neg space] at listed
      exact ih (letter :: front) (List.forall_mem_cons.2 ⟨space, clean⟩) piece listed

theorem solid_join (words : List Text) (some_letter : ∀ word ∈ words, word ≠ [])
    (clean : ∀ word ∈ words, ∀ letter ∈ word, Text.isWhitespace letter = false) :
    Solid (Text.join [' '] words) := by
  induction words with
  | nil => simp [Text.join, Solid]
  | cons word rest ih =>
    obtain ⟨here, later⟩ := List.forall_mem_cons.1 some_letter
    obtain ⟨cleanHere, cleanLater⟩ := List.forall_mem_cons.1 clean
    cases rest with
    | nil =>
      have single : Text.join [' '] [word] = word := by simp [Text.join, List.intercalate]
      rw [single]
      exact ⟨fun letter first => cleanHere letter (List.mem_of_mem_head? first),
        fun letter last => cleanHere letter (List.mem_of_mem_getLast? last)⟩
    | cons next more =>
      obtain ⟨head, tail, rfl⟩ := List.exists_cons_of_ne_nil here
      have joined : Text.join [' '] ((head :: tail) :: next :: more) =
          head :: (tail ++ ' ' :: Text.join [' '] (next :: more)) := by
        simp [Text.join, List.intercalate]
      have filled : Text.join [' '] (next :: more) ≠ [] := by
        have nonempty := later next List.mem_cons_self
        cases more <;> simp [Text.join, List.intercalate, nonempty]
      obtain ⟨-, lasts⟩ := ih later cleanLater
      rw [joined]
      constructor
      · intro letter first
        obtain rfl := Option.some.inj first
        exact cleanHere _ List.mem_cons_self
      · intro letter last
        rw [← List.cons_append, List.getLast?_append_of_ne_nil _ (List.cons_ne_nil _ _),
          ← List.singleton_append, List.getLast?_append_of_ne_nil _ filled] at last
        exact lasts letter last

theorem solid_collapseWhitespace (raw : Text) : Solid (collapseWhitespace raw) := by
  refine solid_join _ (fun word listed => ?_) fun word listed => ?_
  · simpa using (List.mem_filter.1 listed).2
  · exact clean_pieces raw [] (List.forall_mem_nil _) word (List.mem_filter.1 listed).1

section Trims

variable {A : Type} (script : Alphabet A)

theorem trimLetters_infix (letters : List A) :
    ∃ front tail, letters = front ++ trimLetters script letters ++ tail := by
  let isSpace := fun letter => Text.isWhitespace (script.read letter)
  have back : (letters.dropWhile isSpace).reverse.takeWhile isSpace ++
      (letters.dropWhile isSpace).reverse.dropWhile isSpace = (letters.dropWhile isSpace).reverse :=
    List.takeWhile_append_dropWhile
  refine ⟨letters.takeWhile isSpace,
    ((letters.dropWhile isSpace).reverse.takeWhile isSpace).reverse, ?_⟩
  rw [trimLetters, List.append_assoc, ← List.reverse_append, back, List.reverse_reverse,
    List.takeWhile_append_dropWhile]

theorem trimLetters_eq {letters : List A} (solid : Solid (script.text letters)) :
    trimLetters script letters = letters := by
  obtain ⟨first, last⟩ := solid
  rw [Alphabet.text, List.head?_map] at first
  rw [Alphabet.text, List.getLast?_map] at last
  have kept (letters : List A) (clean : ∀ letter ∈ letters.head?.map script.read,
      Text.isWhitespace letter = false) :
      (letters.dropWhile fun letter => Text.isWhitespace (script.read letter)) = letters := by
    cases letters with
    | nil => rfl
    | cons letter rest => exact List.dropWhile_cons_of_neg (by simpa using clean _ rfl)
  rw [trimLetters, kept letters first, kept letters.reverse (by simpa using last),
    List.reverse_reverse]

theorem eq_nil_of_read {letters : List A}
    (reading : Scanner.Reading (redactShape script) letters []) : letters = [] := by
  generalize empty : [] = out at reading
  cases reading with
  | done => rfl
  | cut found _ =>
    obtain ⟨letter, rest, rfl, -⟩ := mark_head script found
    cases empty
  | copy _ _ => cases empty

theorem solid_read {letters out : List A}
    (reading : Scanner.Reading (redactShape script) letters out)
    (solid : Solid (script.text letters)) : Solid (script.text out) := by
  have clean : ['"', '[', ']', '…'].all fun letter => Text.isWhitespace letter = false := by decide
  have marks : ∀ letter ∈ ['"', '[', ']', '…'], Text.isWhitespace letter = false :=
    fun letter member => of_decide_eq_true (List.all_eq_true.1 clean letter member)
  have heads : ∀ mark ∈ ['"', '['], mark ∈ ['"', '[', ']', '…'] := by simp
  constructor
  · obtain ⟨firsts, -⟩ := solid
    cases reading with
    | done => exact firsts
    | cut found _ =>
      obtain ⟨letter, rest, rfl, mark⟩ := mark_head script found
      intro head first
      obtain rfl := Option.some.inj first
      exact marks _ (heads _ mark)
    | copy _ _ => exact firsts
  · obtain ⟨-, lasts⟩ := solid
    induction reading with
    | done => exact lasts
    | @cut letters piece behind out found after ih =>
      obtain ⟨span, rfl, -⟩ := piece_of_span script found
      intro letter last
      cases out with
      | nil =>
        obtain ⟨-, mark, isLast, known⟩ := piece_plain script found
        rw [List.append_nil] at last
        obtain rfl := Option.some.inj (last.symm.trans isLast)
        exact marks _ known
      | cons head out =>
        have left : script.text (head :: out) ≠ [] := List.cons_ne_nil _ _
        rw [script.text_append, List.getLast?_append_of_ne_nil _ left] at last
        refine ih (fun letter last => lasts letter ?_) letter last
        have filled : script.text behind ≠ [] := by
          intro empty
          rw [empty] at last
          cases last
        rw [script.text_append, List.getLast?_append_of_ne_nil _ filled]
        exact last
    | @copy letter rest out missing after ih =>
      cases out with
      | nil =>
        obtain rfl := eq_nil_of_read script after
        exact lasts
      | cons head out =>
        have left : script.text (head :: out) ≠ [] := List.cons_ne_nil _ _
        intro final last
        rw [script.text_cons, ← List.singleton_append,
          List.getLast?_append_of_ne_nil _ left] at last
        refine ih (fun letter last => lasts letter ?_) final last
        have filled : script.text rest ≠ [] := by
          intro empty
          rw [empty] at last
          cases last
        rw [script.text_cons, ← List.singleton_append, List.getLast?_append_of_ne_nil _ filled]
        exact last

end Trims

theorem trim_redacted {A : Type} (script : Alphabet A) {letters : List A} {raw : Text}
    (read : script.text letters = collapseWhitespace raw) :
    trimLetters script (redactLetters script letters) = redactLetters script letters :=
  trimLetters_eq script
    (solid_read script (reading_redactLetters script letters) (read ▸ solid_collapseWhitespace raw))

theorem excerptLetters_cases {A : Type} (script : Alphabet A) {maxChars : Nat}
    {collapsed shown : List A} (excerpt : excerptLetters script maxChars collapsed = some shown) :
    ∃ visible, visible <+: trimLetters script (redactLetters script collapsed) ∧
      visible.length ≤ maxChars ∧ (shown = visible ∨ shown = visible ++ [script.write '…']) := by
  simp only [excerptLetters] at excerpt
  split at excerpt
  · cases excerpt
  split at excerpt
  · next fits =>
    obtain rfl := Option.some.inj excerpt
    exact ⟨_, List.prefix_rfl, fits, .inl rfl⟩
  · obtain rfl := Option.some.inj excerpt
    exact ⟨_, List.take_prefix _ _, List.length_take_le _ _, .inr rfl⟩

theorem no_credential_shown {raw : Text} {maxChars : Nat} {shown : Text}
    (excerpt : sanitizeUpstreamBodyExcerpt raw maxChars = some shown) {front word rest : Text}
    (parted : shown = front ++ word ++ rest) : ¬ IsCredential word := by
  intro shape
  obtain ⟨visible, ⟨cut, start⟩, -, whole⟩ := excerptLetters_cases plainScript excerpt
  obtain ⟨before, behind, trimmed⟩ :=
    trimLetters_infix plainScript (redactLetters plainScript (collapseWhitespace raw))
  have inside (rest : Text) : visible ≠ front ++ word ++ rest := by
    rintro rfl
    refine no_credential_left plainScript (collapseWhitespace raw) (word ++ rest ++ cut ++ behind)
      ⟨before ++ front, ?_⟩ word shape ?_
    · rw [trimmed, ← start]
      simp
    · rw [text_plain, List.append_assoc, List.append_assoc]
      exact List.prefix_append _ _
  rcases whole with rfl | rfl
  · exact inside rest parted
  · -- The ellipsis is behind the credential, which has none.
    rcases List.eq_nil_or_concat rest with rfl | ⟨more, last, rfl⟩
    · rcases List.eq_nil_or_concat word with rfl | ⟨more, last, rfl⟩
      · exact shape.ne_nil rfl
      · rw [List.append_nil, List.concat_eq_append, ← List.append_assoc] at parted
        obtain ⟨-, ellipsis⟩ := List.append_inj' parted rfl
        obtain rfl := (List.cons.inj ellipsis).1
        exact shape.outside (plainScript.write '…') (by simp) (by decide)
    · rw [List.concat_eq_append, ← List.append_assoc] at parted
      exact inside more (List.append_inj' parted rfl).1

theorem excerpt_hides_values {front key rest : Text} {maxChars : Nat}
    (unmarked : Unmarked (redactLetters markedScript (markValue front key rest)))
    {shown : List (Char × Bool)}
    (excerpt : excerptLetters markedScript maxChars (markValue front key rest) = some shown) :
    Unmarked shown := by
  obtain ⟨visible, start, -, whole⟩ := excerptLetters_cases markedScript excerpt
  obtain ⟨before, behind, parted⟩ :=
    trimLetters_infix markedScript (redactLetters markedScript (markValue front key rest))
  have clean : Unmarked visible := fun letter member => unmarked letter <| by
    rw [parted]
    exact List.mem_append_left _ (List.mem_append_right _ (start.subset member))
  rcases whole with rfl | rfl
  · exact clean
  · exact List.forall_mem_append.2 ⟨clean, by simp [markedScript]⟩

end ChatGateway
