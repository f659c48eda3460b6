import ChatGateway.Models.Identity
import ChatGateway.Shared.Scanner

set_option autoImplicit false

/-!
# Redacted bodies

The scanner that takes keys, bearer tokens and the values of secret names out of an upstream's
error text. It runs over any letters that can be read and written, so that a proof can mark
letters and see where they go.
-/

namespace ChatGateway

structure Alphabet (A : Type) where
  read : A → Char
  write : Char → A
  read_write : ∀ letter, read (write letter) = letter

def plainScript : Alphabet Char := { read := id, write := id, read_write := fun _ => rfl }

namespace Alphabet

variable {A : Type} (script : Alphabet A)

def text (letters : List A) : Text := letters.map script.read

def spell (text : Text) : List A := text.map script.write

@[simp] theorem text_append (front rest : List A) :
    script.text (front ++ rest) = script.text front ++ script.text rest :=
  List.map_append

@[simp] theorem text_cons (letter : A) (rest : List A) :
    script.text (letter :: rest) = script.read letter :: script.text rest :=
  rfl

@[simp] theorem text_nil : script.text [] = [] := rfl

@[simp] theorem text_spell (text : Text) : script.text (script.spell text) = text := by
  simp [Alphabet.text, spell, Function.comp_def, script.read_write]

@[simp] theorem length_text (letters : List A) : (script.text letters).length = letters.length :=
  List.length_map _

end Alphabet

def redactedMark : Text := "[redacted]".toList

def redactedValue : Text := ":\"[redacted]\"".toList

def secretKeys : List Text :=
  ["api_key".toList, "apikey".toList, "access_key".toList, "access_token".toList,
    "client_secret".toList, "secret".toList, "secret_key".toList, "token".toList,
    "password".toList, "authorization".toList, "credential".toList]

def IsSecretKey (key : Text) : Prop := key.map asciiLower ∈ secretKeys

instance (key : Text) : Decidable (IsSecretKey key) :=
  decidable_of_iff (secretKeys.any (· = key.map asciiLower)) (by simp [IsSecretKey])

def isKeyLetter (letter : Char) : Bool :=
  letter.isAlphanum || letter = '-' || letter = '_'

def isNotQuote (letter : Char) : Bool := letter ≠ '"'

def isTokenLetter (letter : Char) : Bool :=
  letter.isAlphanum || letter = '.' || letter = '_' || letter = '-'

section Shapes

variable {A : Type} (script : Alphabet A)

def keyMaterial : Scanner.Shape A
  | s :: k :: dash :: rest =>
    if script.read s = 's' ∧ script.read k = 'k' ∧ script.read dash = '-' ∧
        6 ≤ (rest.takeWhile fun letter => isKeyLetter (script.read letter)).length then
      some (script.spell redactedMark,
        rest.dropWhile fun letter => isKeyLetter (script.read letter))
    else none
  | _ => none

def bearerToken : Scanner.Shape A := fun letters =>
  let rest := letters.drop 7
  if (script.text (letters.take 7)).map asciiLower = "bearer ".toList ∧
      4 ≤ (rest.takeWhile fun letter => isTokenLetter (script.read letter)).length then
    some (script.spell redactedMark,
      rest.dropWhile fun letter => isTokenLetter (script.read letter))
  else none

def secretPair : Scanner.Shape A
  | quote :: rest =>
    if script.read quote = '"' then
      match rest.dropWhile fun letter => isNotQuote (script.read letter) with
      | closing :: colon :: opening :: behind =>
        let key := rest.takeWhile fun letter => isNotQuote (script.read letter)
        if script.read colon = ':' ∧ script.read opening = '"' ∧
            IsSecretKey (script.text key) then
          match behind.dropWhile fun letter => isNotQuote (script.read letter) with
          | _ :: behind =>
            some (quote :: (key ++ closing :: script.spell redactedValue), behind)
          | [] => none
        else none
      | _ => none
    else none
  | [] => none

def credential : Scanner.Shape A := fun letters =>
  keyMaterial script letters <|> bearerToken script letters

def redactShape : Scanner.Shape A := fun letters =>
  credential script letters <|> secretPair script letters

def redactLetters (letters : List A) : List A :=
  Scanner.scan (redactShape script) letters

end Shapes

def redactUpstreamBodySecrets (text : Text) : Text :=
  redactLetters plainScript text

def IsKey (word : Text) : Prop :=
  ∃ run, word = "sk-".toList ++ run ∧ 6 ≤ run.length ∧ ∀ letter ∈ run, isKeyLetter letter

def IsBearer (word : Text) : Prop :=
  ∃ name token, word = name ++ token ∧ name.map asciiLower = "bearer ".toList ∧
    4 ≤ token.length ∧ ∀ letter ∈ token, isTokenLetter letter

def IsCredential (word : Text) : Prop := IsKey word ∨ IsBearer word

def separators : List Char := ['"', ':', '-', ' ', '[', ']']

theorem IsSecretKey.lowered {key : Text} (secret : IsSecretKey key) :
    ∀ letter ∈ key, asciiLower letter ∉ separators := by
  have known : (secretKeys.all fun name => name.all fun letter => letter ∉ separators) := by
    decide
  intro letter member
  have named := List.all_eq_true.1 known _ secret
  exact of_decide_eq_true (List.all_eq_true.1 named _ (List.mem_map_of_mem member))

theorem IsSecretKey.plain {key : Text} (secret : IsSecretKey key) :
    ∀ letter ∈ key, letter ∉ separators := by
  have kept : separators.all fun letter => asciiLower letter = letter := by decide
  intro letter member separator
  have lowered := secret.lowered letter member
  rw [of_decide_eq_true (List.all_eq_true.1 kept letter separator)] at lowered
  exact lowered separator

theorem IsSecretKey.ne_nil {key : Text} (secret : IsSecretKey key) : key ≠ [] := by
  rintro rfl
  exact absurd secret (by decide)

section Credentials

variable {A : Type} (script : Alphabet A)

theorem keyMaterial_of_isKey {word rest : List A} (key : IsKey (script.text word)) :
    keyMaterial script (word ++ rest) =
      some (script.spell redactedMark,
        rest.dropWhile fun letter => isKeyLetter (script.read letter)) := by
  obtain ⟨run, spelled, long, letters⟩ := key
  obtain ⟨first, body, rfl, named, rfl⟩ := List.map_eq_append_iff.1 spelled
  obtain ⟨s, first, rfl, readS, named⟩ := List.map_eq_cons_iff.1 named
  obtain ⟨k, first, rfl, readK, named⟩ := List.map_eq_cons_iff.1 named
  obtain ⟨dash, first, rfl, readDash, named⟩ := List.map_eq_cons_iff.1 named
  obtain rfl := List.map_eq_nil_iff.1 named
  have inside : ∀ letter ∈ body, isKeyLetter (script.read letter) := fun letter member =>
    letters _ (List.mem_map_of_mem member)
  simp only [List.cons_append, List.nil_append, keyMaterial, List.takeWhile_append_of_pos inside,
    List.dropWhile_append_of_pos inside]
  rw [if_pos]
  refine ⟨readS, readK, readDash, ?_⟩
  rw [List.length_append]
  rw [List.length_map] at long
  omega

theorem bearerToken_of_isBearer {word rest : List A} (bearer : IsBearer (script.text word)) :
    bearerToken script (word ++ rest) =
      some (script.spell redactedMark,
        rest.dropWhile fun letter => isTokenLetter (script.read letter)) := by
  obtain ⟨name, token, spelled, named, long, letters⟩ := bearer
  obtain ⟨first, body, rfl, rfl, rfl⟩ := List.map_eq_append_iff.1 spelled
  have seven : first.length = 7 := by simpa using congrArg List.length named
  have inside : ∀ letter ∈ body, isTokenLetter (script.read letter) := fun letter member =>
    letters _ (List.mem_map_of_mem member)
  have taken : (first ++ body ++ rest).take 7 = first := by
    rw [List.append_assoc, ← seven, List.take_left]
  have dropped : (first ++ body ++ rest).drop 7 = body ++ rest := by
    rw [List.append_assoc, ← seven, List.drop_left]
  simp only [bearerToken, taken, dropped, List.takeWhile_append_of_pos inside,
    List.dropWhile_append_of_pos inside]
  rw [if_pos]
  refine ⟨named, ?_⟩
  rw [List.length_append]
  rw [List.length_map] at long
  omega

theorem keyMaterial_span {letters piece behind : List A}
    (found : keyMaterial script letters = some (piece, behind)) :
    ∃ word, letters = word ++ behind ∧ IsKey (script.text word) ∧
      piece = script.spell redactedMark ∧
      ∀ letter ∈ behind.head?, isKeyLetter (script.read letter) = false := by
  match letters with
  | [] | [_] | [_, _] => simp [keyMaterial] at found
  | s :: k :: dash :: rest =>
    simp only [keyMaterial] at found
    split at found
    · next shape =>
      obtain ⟨readS, readK, readDash, long⟩ := shape
      obtain ⟨rfl, rfl⟩ : _ ∧ _ := by simpa using found
      refine ⟨s :: k :: dash :: rest.takeWhile fun letter => isKeyLetter (script.read letter), ?_,
        ⟨script.text (rest.takeWhile fun letter => isKeyLetter (script.read letter)), ?_, ?_, ?_⟩,
        rfl, ?_⟩
      · rw [List.cons_append, List.cons_append, List.cons_append, List.takeWhile_append_dropWhile]
      · rw [script.text_cons, script.text_cons, script.text_cons, readS, readK, readDash]
        rfl
      · rw [script.length_text]
        exact long
      · intro letter member
        obtain ⟨known, inside, rfl⟩ := List.mem_map.1 member
        have good := List.mem_takeWhile_imp inside
        exact good
      · intro letter first
        have stops := List.head?_dropWhile_not (fun letter => isKeyLetter (script.read letter)) rest
        rw [Option.mem_def.1 first] at stops
        exact stops
    · cases found

theorem bearerToken_span {letters piece behind : List A}
    (found : bearerToken script letters = some (piece, behind)) :
    ∃ word, letters = word ++ behind ∧ IsBearer (script.text word) ∧
      piece = script.spell redactedMark ∧
      ∀ letter ∈ behind.head?, isTokenLetter (script.read letter) = false := by
  simp only [bearerToken] at found
  split at found
  · next shape =>
    obtain ⟨named, long⟩ := shape
    obtain ⟨rfl, rfl⟩ : _ ∧ _ := by simpa using found
    refine ⟨letters.take 7 ++
      (letters.drop 7).takeWhile fun letter => isTokenLetter (script.read letter), ?_,
      ⟨script.text (letters.take 7), _, script.text_append _ _, named, ?_, ?_⟩, rfl, ?_⟩
    · rw [List.append_assoc, List.takeWhile_append_dropWhile, List.take_append_drop]
    · rw [script.length_text]
      exact long
    · intro letter member
      obtain ⟨known, inside, rfl⟩ := List.mem_map.1 member
      have good := List.mem_takeWhile_imp inside
      exact good
    · intro letter first
      have stops := List.head?_dropWhile_not
        (fun letter => isTokenLetter (script.read letter)) (letters.drop 7)
      rw [Option.mem_def.1 first] at stops
      exact stops
  · cases found

theorem credential_span {letters piece behind : List A}
    (found : credential script letters = some (piece, behind)) :
    ∃ word, letters = word ++ behind ∧ IsCredential (script.text word) ∧
      piece = script.spell redactedMark ∧
      ∀ letter ∈ behind.head?, (script.read letter).isAlphanum = false := by
  rcases (Option.orElse_eq_some _ _ _).1 found with key | ⟨-, bearer⟩
  · obtain ⟨word, parted, shape, written, stops⟩ := keyMaterial_span script key
    refine ⟨word, parted, .inl shape, written, fun letter first => ?_⟩
    have other := stops letter first
    simp only [isKeyLetter, Bool.or_eq_false_iff] at other
    exact other.1.1
  · obtain ⟨word, parted, shape, written, stops⟩ := bearerToken_span script bearer
    refine ⟨word, parted, .inr shape, written, fun letter first => ?_⟩
    have other := stops letter first
    simp only [isTokenLetter, Bool.or_eq_false_iff] at other
    exact other.1.1.1

theorem credential_of_isCredential {word : List A}
    (shape : IsCredential (script.text word)) :
    ∃ good : Char → Bool, good '"' = false ∧ ∀ rest, credential script (word ++ rest) =
      some (script.spell redactedMark, rest.dropWhile fun letter => good (script.read letter)) := by
  rcases shape with key | bearer
  · refine ⟨isKeyLetter, by decide, fun rest => ?_⟩
    rw [credential, keyMaterial_of_isKey script key]
    rfl
  · refine ⟨isTokenLetter, by decide, fun rest => ?_⟩
    -- The two kinds begin with different letters.
    have other : keyMaterial script (word ++ rest) = none := by
      cases found : keyMaterial script (word ++ rest) with
      | none => rfl
      | some cut =>
        obtain ⟨start, parted, ⟨run, spelled, -⟩, -⟩ := keyMaterial_span script found
        obtain ⟨name, token, named, lowered, -⟩ := bearer
        obtain ⟨first, body, rfl, rfl, rfl⟩ := List.map_eq_append_iff.1 named
        obtain ⟨b, later, rfl, readB, -⟩ := List.map_eq_cons_iff.1
          ((List.map_map ..).symm.trans lowered)
        obtain ⟨s, first, rfl, readS, -⟩ := List.map_eq_cons_iff.1 spelled
        obtain ⟨rfl, -⟩ := List.cons.inj parted
        rw [Function.comp_apply, readS] at readB
        exact absurd readB (by decide)
    rw [credential, other, bearerToken_of_isBearer script bearer]
    rfl

theorem credential_ended {word rest : List A} (shape : IsCredential (script.text word))
    (ended : ∀ letter ∈ rest.head?, script.read letter = '"') :
    credential script (word ++ rest) = some (script.spell redactedMark, rest) := by
  obtain ⟨good, quote, found⟩ := credential_of_isCredential script shape
  rw [found]
  have stops : ∀ letter ∈ rest.head?, good (script.read letter) = false := by
    intro letter first
    rw [ended letter first]
    exact quote
  have whole := (Scanner.run_ends rest (List.forall_mem_nil _) stops).2
  rw [List.nil_append] at whole
  rw [whole]

end Credentials

theorem IsCredential.outside {word : Text} (shape : IsCredential word) :
    ∀ letter ∈ word, letter ∉ ['"', '[', ']', '…'] := by
  have foreign : ['"', '[', ']', '…'].all fun letter => isKeyLetter letter = false ∧
      isTokenLetter letter = false ∧ letter ∉ "sk-".toList ∧
      asciiLower letter ∉ "bearer ".toList := by decide
  intro letter member mark
  obtain ⟨noKey, noToken, noStart, noName⟩ :=
    of_decide_eq_true (List.all_eq_true.1 foreign letter mark)
  rcases shape with ⟨run, rfl, -, inside⟩ | ⟨name, token, rfl, named, -, inside⟩
  · rcases List.mem_append.1 member with early | late
    · exact noStart early
    · simp [inside letter late] at noKey
  · rcases List.mem_append.1 member with early | late
    · exact noName (named ▸ List.mem_map_of_mem early)
    · simp [inside letter late] at noToken

theorem IsCredential.header {word : Text} (shape : IsCredential word) :
    ∃ header, header <+: word ∧ ∃ letter ∈ header, asciiLower letter ∈ ['-', ' '] := by
  rcases shape with ⟨run, rfl, -⟩ | ⟨name, token, rfl, named, -⟩
  · exact ⟨"sk-".toList, List.prefix_append _ _, '-', by decide, by decide⟩
  · refine ⟨name, List.prefix_append _ _, ?_⟩
    have blank : ' ' ∈ name.map asciiLower := named ▸ by decide
    obtain ⟨letter, member, lowered⟩ := List.mem_map.1 blank
    exact ⟨letter, member, by rw [lowered]; decide⟩

theorem IsCredential.ne_nil {word : Text} (shape : IsCredential word) : word ≠ [] := by
  rintro rfl
  obtain ⟨header, front, letter, member, -⟩ := shape.header
  rw [List.prefix_nil.1 front] at member
  cases member

theorem IsCredential.not_prefix {word tail out : Text} (shape : IsCredential word)
    (plain : ∀ letter ∈ tail, asciiLower letter ∉ ['-', ' '])
    (ended : ∃ letter ∈ tail.getLast?, letter ∈ ['"', '[', ']', '…']) :
    ¬ word <+: tail ++ out := by
  intro front
  obtain ⟨header, start, letter, member, told⟩ := shape.header
  obtain ⟨last, isLast, mark⟩ := ended
  rcases List.prefix_or_prefix_of_prefix (start.trans front) (List.prefix_append tail out) with
    inside | covered
  · exact plain letter (inside.subset member) told
  · exact shape.outside last (start.subset (covered.subset (List.mem_of_getLast? isLast))) mark

section Pairs

variable {A : Type} (script : Alphabet A)

/-- A pair with a secret name at the head of a text, what is written for it, and the text behind
its closing quote. -/
inductive PairSpan : List A → List A → List A → Prop
  | mk {quote closing colon opening last : A} {key value behind : List A}
      (readQuote : script.read quote = '"') (secret : IsSecretKey (script.text key))
      (readClosing : script.read closing = '"') (readColon : script.read colon = ':')
      (readOpening : script.read opening = '"') (inside : '"' ∉ script.text value)
      (readLast : script.read last = '"') :
      PairSpan (quote :: (key ++ closing :: colon :: opening :: (value ++ last :: behind)))
        (quote :: (key ++ closing :: script.spell redactedValue)) behind

theorem noQuote {letters : List A} (inside : '"' ∉ script.text letters) :
    ∀ letter ∈ letters, isNotQuote (script.read letter) := by
  intro letter member
  rw [isNotQuote, decide_eq_true_eq]
  rintro quote
  exact inside (quote ▸ List.mem_map_of_mem member)

theorem IsSecretKey.noQuote {key : Text} (secret : IsSecretKey key) : '"' ∉ key := by
  intro member
  exact secret.plain _ member (by decide)

theorem secretPair_of_span {letters piece behind : List A}
    (span : PairSpan script letters piece behind) :
    secretPair script letters = some (piece, behind) := by
  obtain ⟨readQuote, secret, readClosing, readColon, readOpening, inside, readLast⟩ := span
  rename_i quote closing colon opening last key value
  have keyRun := Scanner.run_ends (closing :: colon :: opening :: (value ++ last :: behind))
    (noQuote script secret.noQuote) (by simpa [isNotQuote] using readClosing)
  have valueRun := Scanner.run_ends (last :: behind) (noQuote script inside)
    (by simpa [isNotQuote] using readLast)
  simp only [secretPair, if_pos readQuote, keyRun.1, keyRun.2, valueRun.2]
  rw [if_pos ⟨readColon, readOpening, secret⟩]

theorem parted_at_quote {letters behind : List A} {last : A}
    (found : (letters.dropWhile fun letter => isNotQuote (script.read letter)) = last :: behind) :
    letters = (letters.takeWhile fun letter => isNotQuote (script.read letter)) ++ last :: behind ∧
      '"' ∉ script.text (letters.takeWhile fun letter => isNotQuote (script.read letter)) ∧
      script.read last = '"' := by
  refine ⟨?_, fun member => ?_, ?_⟩
  · rw [← found, List.takeWhile_append_dropWhile]
  · obtain ⟨letter, inside, quote⟩ := List.mem_map.1 member
    have other := List.mem_takeWhile_imp inside
    simp [isNotQuote, quote] at other
  · have stops := List.head?_dropWhile_not (fun letter => isNotQuote (script.read letter)) letters
    rw [found] at stops
    simpa [isNotQuote] using stops

theorem span_of_secretPair {letters piece behind : List A}
    (found : secretPair script letters = some (piece, behind)) :
    PairSpan script letters piece behind := by
  cases letters with
  | nil => cases found
  | cons quote rest =>
    simp only [secretPair] at found
    split at found
    · next readQuote =>
      split at found
      · next closing colon opening value parted =>
        split at found
        · next shape =>
          obtain ⟨readColon, readOpening, secret⟩ := shape
          split at found
          · next last behind closed =>
            simp only [Option.some.injEq, Prod.mk.injEq] at found
            obtain ⟨rfl, rfl⟩ := found
            obtain ⟨whole, -, readClosing⟩ := parted_at_quote script parted
            obtain ⟨valueWhole, inside, readLast⟩ := parted_at_quote script closed
            have span : PairSpan script _ _ behind :=
              .mk readQuote secret readClosing readColon readOpening inside readLast
            rw [← valueWhole, ← whole] at span
            exact span
          · cases found
        · cases found
      · cases found
    · cases found

theorem exists_span {quote closing colon opening : A} {key rest : List A}
    (readQuote : script.read quote = '"') (secret : IsSecretKey (script.text key))
    (readClosing : script.read closing = '"') (readColon : script.read colon = ':')
    (readOpening : script.read opening = '"') (closed : '"' ∈ script.text rest) :
    ∃ value last behind, rest = value ++ last :: behind ∧ '"' ∉ script.text value ∧
      script.read last = '"' ∧
      PairSpan script (quote :: (key ++ closing :: colon :: opening :: rest))
        (quote :: (key ++ closing :: script.spell redactedValue)) behind := by
  cases parted : rest.dropWhile fun letter => isNotQuote (script.read letter) with
  | nil =>
    obtain ⟨letter, member, quoted⟩ := List.mem_map.1 closed
    have other := List.dropWhile_eq_nil_iff.1 parted letter member
    simp [isNotQuote, quoted] at other
  | cons last behind =>
    obtain ⟨whole, inside, readLast⟩ := parted_at_quote script parted
    refine ⟨_, last, behind, whole, inside, readLast, ?_⟩
    have span : PairSpan script _ _ behind :=
      .mk readQuote secret readClosing readColon readOpening inside readLast
    rw [← whole] at span
    exact span

theorem redactShape_cases {letters piece behind : List A}
    (found : redactShape script letters = some (piece, behind)) :
    (∃ word, letters = word ++ behind ∧ IsCredential (script.text word) ∧
      piece = script.spell redactedMark ∧
      ∀ letter ∈ behind.head?, (script.read letter).isAlphanum = false) ∨
    (credential script letters = none ∧ PairSpan script letters piece behind) := by
  rcases (Option.orElse_eq_some _ _ _).1 found with known | ⟨none, pair⟩
  · exact .inl (credential_span script known)
  · exact .inr ⟨none, span_of_secretPair script pair⟩

theorem redactShape_eq_none {letters : List A} :
    redactShape script letters = none ↔
      credential script letters = none ∧ secretPair script letters = none := by
  rw [redactShape]
  cases credential script letters <;> simp

theorem redactShape_cuts : Scanner.Cuts (redactShape script) := by
  intro letters piece behind found
  rcases redactShape_cases script found with ⟨word, parted, shape, -⟩ | ⟨-, span⟩
  · refine ⟨word, ?_, parted⟩
    rintro rfl
    exact shape.ne_nil rfl
  · cases span with
    | @mk quote closing colon opening last key value behind =>
      exact ⟨quote :: (key ++ closing :: colon :: opening :: (value ++ [last])), by simp, by simp⟩

theorem reading_redactLetters (letters : List A) :
    Scanner.Reading (redactShape script) letters (redactLetters script letters) :=
  Scanner.reading_scan (redactShape_cuts script) letters

end Pairs

section Erasure

variable {A : Type} (script : Alphabet A)

def readCut (cut : List A × List A) : Text × Text := (script.text cut.1, script.text cut.2)

@[simp] theorem read_plain (letter : Char) : plainScript.read letter = letter := rfl

@[simp] theorem text_plain (text : Text) : plainScript.text text = text := List.map_id text

@[simp] theorem spell_plain (text : Text) : plainScript.spell text = text := List.map_id text

theorem takeWhile_text (good : Char → Bool) (letters : List A) :
    (script.text letters).takeWhile good =
      script.text (letters.takeWhile fun letter => good (script.read letter)) :=
  List.takeWhile_map

theorem dropWhile_text (good : Char → Bool) (letters : List A) :
    (script.text letters).dropWhile good =
      script.text (letters.dropWhile fun letter => good (script.read letter)) :=
  List.dropWhile_map

theorem secretPair_text (letters : List A) :
    secretPair plainScript (script.text letters) =
      (secretPair script letters).map (readCut script) := by
  cases letters with
  | nil => rfl
  | cons quote rest =>
    simp only [secretPair, script.text_cons, read_plain, text_plain, spell_plain, takeWhile_text,
      dropWhile_text]
    split
    · match parted : rest.dropWhile fun letter => isNotQuote (script.read letter) with
      | [] | [_] | [_, _] => rfl
      | closing :: colon :: opening :: value =>
        simp only [script.text_cons, dropWhile_text]
        split
        · match closed : value.dropWhile fun letter => isNotQuote (script.read letter) with
          | [] => rfl
          | last :: behind =>
            simp only [script.text_cons, Option.map_some, readCut, script.text_append,
              script.text_spell]
        · rfl
    · rfl

end Erasure

section Left

variable {A : Type} (script : Alphabet A)

theorem mark_head {letters piece behind : List A}
    (found : redactShape script letters = some (piece, behind)) :
    ∃ letter rest, piece = letter :: rest ∧ script.read letter ∈ ['"', '['] := by
  rcases redactShape_cases script found with ⟨word, -, -, rfl, -⟩ | ⟨-, span⟩
  · exact ⟨script.write '[', _, rfl, by rw [script.read_write]; decide⟩
  · cases span with
    | mk readQuote => exact ⟨_, _, rfl, by rw [readQuote]; decide⟩

theorem copied_letter {letters out : List A} {letter : A}
    (reading : Scanner.Reading (redactShape script) letters (letter :: out))
    (own : script.read letter ∉ ['"', '[']) :
    ∃ rest, letters = letter :: rest ∧ Scanner.Reading (redactShape script) rest out := by
  generalize whole : letter :: out = all at reading
  cases reading with
  | done => cases whole
  | cut found after =>
    obtain ⟨head, rest, rfl, mark⟩ := mark_head script found
    obtain ⟨rfl, -⟩ := List.cons.inj whole
    exact absurd mark own
  | copy missing after =>
    obtain ⟨rfl, rfl⟩ := List.cons.inj whole
    exact ⟨_, rfl, after⟩

theorem copied_word {word letters out : List A}
    (reading : Scanner.Reading (redactShape script) letters (word ++ out))
    (own : ∀ letter ∈ script.text word, letter ∉ ['"', '[']) :
    ∃ rest, letters = word ++ rest ∧ Scanner.Reading (redactShape script) rest out := by
  induction word generalizing letters with
  | nil => exact ⟨letters, rfl, reading⟩
  | cons letter word ih =>
    obtain ⟨head, later⟩ := List.forall_mem_cons.1 own
    obtain ⟨rest, rfl, after⟩ := copied_letter script reading head
    obtain ⟨behind, rfl, left⟩ := ih after later
    exact ⟨behind, rfl, left⟩

theorem credential_eq_none {letters : List A} :
    credential script letters = none ↔
      ∀ word, IsCredential word → ¬ word <+: script.text letters := by
  constructor
  · intro none word shape front
    obtain ⟨behind, parted⟩ := front
    obtain ⟨first, tail, rfl, rfl, -⟩ := List.map_eq_append_iff.1 parted.symm
    obtain ⟨good, -, found⟩ := credential_of_isCredential script shape
    rw [found] at none
    cases none
  · intro none
    cases found : credential script letters with
    | none => rfl
    | some cut =>
      obtain ⟨word, rfl, shape, -⟩ := credential_span script found
      rw [script.text_append] at none
      exact absurd (List.prefix_append _ _) (none _ shape)

theorem no_credential_copied {letter : A} {rest out : List A}
    (missing : redactShape script (letter :: rest) = none)
    (reading : Scanner.Reading (redactShape script) rest out) :
    ∀ word, IsCredential word → ¬ word <+: script.text (letter :: out) := by
  intro word shape front
  obtain ⟨behind, parted⟩ := front
  obtain ⟨first, tail, spelled, rfl, -⟩ := List.map_eq_append_iff.1 parted.symm
  have whole : Scanner.Reading (redactShape script) (letter :: rest) (first ++ tail) :=
    spelled ▸ .copy missing reading
  have marks : ∀ mark ∈ ['"', '['], mark ∈ ['"', '[', ']', '…'] := by simp
  obtain ⟨behind, parted, -⟩ := copied_word script whole fun letter member mark =>
    shape.outside letter member (marks letter mark)
  obtain ⟨good, -, found⟩ := credential_of_isCredential script shape
  have none := ((redactShape_eq_none script).1 missing).1
  rw [parted, found] at none
  cases none

theorem piece_plain {letters piece behind : List A}
    (found : redactShape script letters = some (piece, behind)) :
    (∀ letter ∈ script.text piece, asciiLower letter ∉ ['-', ' ']) ∧
      ∃ mark ∈ (script.text piece).getLast?, mark ∈ ['"', '[', ']', '…'] := by
  rcases redactShape_cases script found with ⟨word, -, -, rfl, -⟩ | ⟨-, span⟩
  · rw [script.text_spell]
    have plain : redactedMark.all fun letter => asciiLower letter ∉ ['-', ' '] := by decide
    exact ⟨fun letter member => of_decide_eq_true (List.all_eq_true.1 plain letter member),
      ']', rfl, by simp⟩
  · cases span with
    | @mk quote closing colon opening last key value behind readQuote secret readClosing =>
      rw [script.text_cons, script.text_append, script.text_cons, script.text_spell, readQuote,
        readClosing]
      constructor
      · intro letter member
        rcases List.mem_cons.1 member with rfl | member
        · decide
        rcases List.mem_append.1 member with named | literal
        · have separator : ∀ mark ∈ ['-', ' '], mark ∈ separators := by simp [separators]
          exact fun told => secret.lowered letter named (separator _ told)
        · have marks : ('"' :: redactedValue).all fun letter => asciiLower letter ∉ ['-', ' '] := by
            decide
          exact of_decide_eq_true (List.all_eq_true.1 marks letter literal)
      · refine ⟨'"', ?_, by decide⟩
        rw [← List.cons_append, List.getLast?_append]
        rfl

theorem no_credential_in_piece {letters piece behind tail : List A}
    (found : redactShape script letters = some (piece, behind)) (some_letter : tail ≠ [])
    (suffix : tail <:+ piece) (out : List A) :
    ∀ word, IsCredential word → ¬ word <+: script.text (tail ++ out) := by
  intro word shape
  obtain ⟨plain, mark, isLast, marks⟩ := piece_plain script found
  obtain ⟨front, rfl⟩ := suffix
  rw [script.text_append] at plain isLast ⊢
  refine shape.not_prefix (fun letter member => plain letter (List.mem_append_right _ member))
    ⟨mark, ?_, marks⟩
  rw [List.getLast?_append_of_ne_nil] at isLast
  · exact isLast
  · exact fun empty => some_letter (List.map_eq_nil_iff.1 empty)

theorem no_credential_left (letters : List A) :
    ∀ tail, tail <:+ redactLetters script letters →
      ∀ word, IsCredential word → ¬ word <+: script.text tail := by
  refine Scanner.Reading.suffixes ?_ ?_ ?_ (reading_redactLetters script letters)
  · intro word shape front
    exact shape.ne_nil (List.prefix_nil.1 front)
  · intro text piece behind tail out found some_letter suffix
    exact no_credential_in_piece script found some_letter suffix out
  · intro letter rest out missing after
    exact no_credential_copied script missing after

theorem credential_none_of_quote {letter : A} (quote : script.read letter = '"') (rest : List A) :
    credential script (letter :: rest) = none := by
  cases found : credential script (letter :: rest) with
  | none => rfl
  | some cut =>
    obtain ⟨word, parted, shape, -⟩ := credential_span script found
    cases word with
    | nil => exact absurd rfl shape.ne_nil
    | cons head word =>
      obtain ⟨rfl, -⟩ := List.cons.inj parted
      exact absurd (by rw [quote]; decide) (shape.outside (script.read letter) (by simp))

theorem secretPair_none {letter : A} (other : script.read letter ≠ '"') (rest : List A) :
    secretPair script (letter :: rest) = none := by
  simp only [secretPair, if_neg other]

theorem no_quote_read {letters out : List A}
    (reading : Scanner.Reading (redactShape script) letters out)
    (none : '"' ∉ script.text letters) : '"' ∉ script.text out := by
  have every := Scanner.Reading.letters (redactShape_cuts script)
    (fun letter => script.read letter ≠ '"') ?_ reading fun letter member quote =>
      none (quote ▸ List.mem_map_of_mem member)
  · rintro quote
    obtain ⟨letter, member, read⟩ := List.mem_map.1 quote
    exact every letter member read
  · intro text piece behind found other letter member quote
    rcases redactShape_cases script found with ⟨word, -, -, rfl, -⟩ | ⟨-, span⟩
    · have known : script.read letter ∈ script.text (script.spell redactedMark) :=
        List.mem_map_of_mem member
      rw [script.text_spell, quote] at known
      exact absurd known (by decide)
    · cases span with
      | mk readQuote => exact other _ List.mem_cons_self readQuote

theorem copied_name_end {letters out : List A} {closing colon : A}
    (reading : Scanner.Reading (redactShape script) letters (closing :: colon :: out))
    (readClosing : script.read closing = '"') (readColon : script.read colon = ':') :
    ∃ rest, letters = closing :: colon :: rest ∧
      Scanner.Reading (redactShape script) rest out := by
  have own : script.read colon ∉ ['"', '['] := by rw [readColon]; decide
  generalize whole : closing :: colon :: out = all at reading
  cases reading with
  | done => cases whole
  | @cut _ piece behind later found after =>
    rcases redactShape_cases script found with ⟨word, -, -, rfl, -⟩ | ⟨-, span⟩
    · have head : closing = script.write '[' := (List.cons.inj whole).1
      rw [head, script.read_write] at readClosing
      cases readClosing
    · cases span with
      | @mk quote closing' colon' opening last key value behind readQuote secret =>
        cases key with
        | nil => exact absurd rfl secret.ne_nil
        | cons letter key =>
          obtain ⟨-, rest⟩ := List.cons.inj whole
          obtain ⟨rfl, -⟩ := List.cons.inj rest
          refine absurd ?_ (secret.plain _ List.mem_cons_self)
          rw [readColon]
          decide
  | copy missing after =>
    obtain ⟨rfl, rfl⟩ := List.cons.inj whole
    obtain ⟨rest, rfl, left⟩ := copied_letter script after own
    exact ⟨rest, rfl, left⟩

theorem quote_ahead {letters out : List A} {opening : A}
    (reading : Scanner.Reading (redactShape script) letters (opening :: out))
    (readOpening : script.read opening = '"') (closed : '"' ∈ script.text out) :
    ∃ rest, letters = opening :: rest ∧ '"' ∈ script.text rest := by
  generalize whole : opening :: out = all at reading
  cases reading with
  | done => cases whole
  | @cut _ piece behind later found after =>
    rcases redactShape_cases script found with ⟨word, -, -, rfl, -⟩ | ⟨-, span⟩
    · have head : opening = script.write '[' := (List.cons.inj whole).1
      rw [head, script.read_write] at readOpening
      cases readOpening
    · cases span with
      | mk readQuote secret readClosing =>
        obtain ⟨rfl, -⟩ := List.cons.inj whole
        exact ⟨_, rfl, by simp [readClosing]⟩
  | copy missing after =>
    obtain ⟨rfl, rfl⟩ := List.cons.inj whole
    refine ⟨_, rfl, ?_⟩
    by_contra none
    exact no_quote_read script after none closed

theorem no_pair_copied {letter : A} {rest out : List A}
    (missing : redactShape script (letter :: rest) = none)
    (reading : Scanner.Reading (redactShape script) rest out) :
    secretPair script (letter :: out) = none := by
  cases found : secretPair script (letter :: out) with
  | none => rfl
  | some cut =>
    obtain ⟨piece, tail⟩ := cut
    have span := span_of_secretPair script found
    generalize whole : letter :: out = all at span
    cases span with
    | @mk quote closing colon opening last key value behind readQuote secret readClosing readColon
        readOpening inside readLast =>
      obtain ⟨rfl, rfl⟩ := List.cons.inj whole
      have own : ∀ letter ∈ script.text key, letter ∉ ['"', '['] := by
        have known : ∀ mark ∈ ['"', '['], mark ∈ separators := by simp [separators]
        exact fun letter member mark => secret.plain letter member (known letter mark)
      obtain ⟨afterKey, rfl, fromClosing⟩ := copied_word script reading own
      obtain ⟨afterColon, rfl, fromOpening⟩ :=
        copied_name_end script fromClosing readClosing readColon
      obtain ⟨ahead, rfl, closed⟩ := quote_ahead script fromOpening readOpening (by simp [readLast])
      obtain ⟨_, _, _, -, -, -, span⟩ :=
        exists_span script readQuote secret readClosing readColon readOpening closed
      have none := ((redactShape_eq_none script).1 missing).2
      rw [secretPair_of_span script span] at none
      cases none

theorem spell_redactedValue : script.spell redactedValue =
    script.write ':' :: script.write '"' :: (script.spell redactedMark ++ [script.write '"']) :=
  rfl

theorem reading_again {letters out : List A}
    (reading : Scanner.Reading (redactShape script) letters out) :
    Scanner.Reading (redactShape script) out out := by
  refine Scanner.Reading.again ?_ ?_ reading
  · intro text piece behind out found again
    rcases redactShape_cases script found with ⟨word, -, -, rfl, -⟩ | ⟨-, span⟩
    · refine again.copies fun tail some_letter suffix => ?_
      have none := (credential_eq_none script).2
        (no_credential_in_piece script found some_letter suffix out)
      cases tail with
      | nil => exact absurd rfl some_letter
      | cons letter rest =>
        have own : script.read letter ∈ script.text (script.spell redactedMark) :=
          List.mem_map_of_mem (suffix.subset List.mem_cons_self)
        rw [script.text_spell] at own
        have other : script.read letter ≠ '"' := fun quote =>
          absurd (quote ▸ own) (by decide)
        exact (redactShape_eq_none script).2 ⟨none, secretPair_none script other _⟩
    · cases span with
      | @mk quote closing colon opening last key value behind readQuote secret readClosing =>
        have unquoted : '"' ∉ script.text (script.spell redactedMark) := by
          rw [script.text_spell]
          decide
        have span : PairSpan script _ _ out := .mk readQuote secret readClosing
          (script.read_write ':') (script.read_write '"') unquoted (script.read_write '"')
        have shape : redactShape script
            ((quote :: (key ++ closing :: script.spell redactedValue)) ++ out) =
              some (quote :: (key ++ closing :: script.spell redactedValue), out) := by
          rw [redactShape, List.cons_append, credential_none_of_quote script readQuote]
          rw [spell_redactedValue] at span ⊢
          simp only [List.append_assoc, List.cons_append, List.nil_append] at span ⊢
          exact secretPair_of_span script span
        exact .cut shape again
  · intro letter rest out missing after
    refine (redactShape_eq_none script).2 ⟨?_, no_pair_copied script missing after⟩
    exact (credential_eq_none script).2 (no_credential_copied script missing after)

theorem redactLetters_redactLetters (letters : List A) :
    redactLetters script (redactLetters script letters) = redactLetters script letters :=
  Scanner.scan_eq (redactShape_cuts script)
    (reading_again script (reading_redactLetters script letters))

end Left

end ChatGateway
