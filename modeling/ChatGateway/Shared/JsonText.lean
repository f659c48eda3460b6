import Mathlib.Data.List.Basic

set_option autoImplicit false

/-!
# JSON texts

The grammar of JSON, and a scanner that follows how deep a text is nested. A text that spells a
value leaves the scanner where no other value may begin, so no such text has one behind it.
-/

namespace JsonGrammar

def Blank (text : List Char) : Prop :=
  ∀ char ∈ text, char ∈ [' ', '\t', '\n', '\r']

instance (text : List Char) : Decidable (Blank text) :=
  decidable_of_iff (text.all (· ∈ [' ', '\t', '\n', '\r']) = true) (by simp [Blank])

def isHex (char : Char) : Bool :=
  char.isDigit || ('a' ≤ char && char ≤ 'f') || ('A' ≤ char && char ≤ 'F')

inductive StringBody : List Char → Prop where
  | nil : StringBody []
  | plain {char : Char} {rest : List Char} (notQuote : char ≠ '"') (notEscape : char ≠ '\\')
      (printable : 0x20 ≤ char.toNat) (more : StringBody rest) : StringBody (char :: rest)
  | escaped {char : Char} {rest : List Char}
      (known : char ∈ ['"', '\\', '/', 'b', 'f', 'n', 'r', 't']) (more : StringBody rest) :
      StringBody ('\\' :: char :: rest)
  | unicode {digits rest : List Char} (four : digits.length = 4)
      (hex : ∀ char ∈ digits, isHex char = true) (more : StringBody rest) :
      StringBody ('\\' :: 'u' :: digits ++ rest)

def Digits (text : List Char) : Prop :=
  text ≠ [] ∧ ∀ char ∈ text, char.isDigit = true

structure NumberParts where
  sign : List Char
  whole : List Char
  fraction : List Char
  exponent : List Char

def NumberParts.text (parts : NumberParts) : List Char :=
  parts.sign ++ parts.whole ++ parts.fraction ++ parts.exponent

structure NumberParts.Valid (parts : NumberParts) : Prop where
  sign : parts.sign = [] ∨ parts.sign = ['-']
  whole : Digits parts.whole
  unpadded : parts.whole = ['0'] ∨ parts.whole.head? ≠ some '0'
  fraction : parts.fraction = [] ∨ ∃ digits, Digits digits ∧ parts.fraction = '.' :: digits
  exponent : parts.exponent = [] ∨ ∃ mark sign digits, mark ∈ ['e', 'E'] ∧
    sign ∈ [[], ['+'], ['-']] ∧ Digits digits ∧ parts.exponent = mark :: (sign ++ digits)

inductive Part where
  | value
  | element
  | elements
  | member
  | members

inductive Spells : Part → List Char → Prop where
  | literal {text : List Char}
      (known : text ∈ ["null".toList, "true".toList, "false".toList]) : Spells .value text
  | number {parts : NumberParts} (valid : parts.Valid) : Spells .value parts.text
  | string {body : List Char} (inside : StringBody body) : Spells .value ('"' :: (body ++ ['"']))
  | emptyArray {blank : List Char} (isBlank : Blank blank) :
      Spells .value ('[' :: (blank ++ [']']))
  | array {elements : List Char} (inside : Spells .elements elements) :
      Spells .value ('[' :: (elements ++ [']']))
  | emptyObject {blank : List Char} (isBlank : Blank blank) :
      Spells .value ('\x7b' :: (blank ++ ['\x7d']))
  | object {members : List Char} (inside : Spells .members members) :
      Spells .value ('\x7b' :: (members ++ ['\x7d']))
  | element {before value after : List Char} (blankBefore : Blank before)
      (inside : Spells .value value) (blankAfter : Blank after) :
      Spells .element (before ++ value ++ after)
  | lastElement {element : List Char} (inside : Spells .element element) :
      Spells .elements element
  | elements {element rest : List Char} (inside : Spells .element element)
      (more : Spells .elements rest) : Spells .elements (element ++ ',' :: rest)
  | member {before body after element : List Char} (blankBefore : Blank before)
      (key : StringBody body) (blankAfter : Blank after) (inside : Spells .element element) :
      Spells .member (before ++ '"' :: (body ++ '"' :: (after ++ ':' :: element)))
  | lastMember {member : List Char} (inside : Spells .member member) : Spells .members member
  | members {member rest : List Char} (inside : Spells .member member)
      (more : Spells .members rest) : Spells .members (member ++ ',' :: rest)

def JsonText (text : List Char) : Prop :=
  Spells .element text

def opens (char : Char) : Bool := char ∈ ['\x7b', '[']

def closes (char : Char) : Bool := char ∈ ['\x7d', ']']

def Visible (char : Char) : Prop :=
  0x21 ≤ char.toNat ∧ char.toNat < 0x7f

structure Plain (char : Char) : Prop where
  visible : Visible char
  notQuote : char ≠ '"'
  notOpening : opens char = false
  notClosing : closes char = false

theorem plain_of_digit {char : Char} (digit : char.isDigit = true) : Plain char := by
  have range : 48 ≤ char.toNat ∧ char.toNat ≤ 57 := by
    simpa [Char.isDigit, UInt32.le_iff_toNat_le] using digit
  have apart : ∀ other : Char, other.toNat < 48 ∨ 57 < other.toNat → char ≠ other := by
    rintro other outside rfl
    omega
  exact
    { visible := ⟨by omega, by omega⟩
      notQuote := apart _ (by decide)
      notOpening := by simp [opens, apart '\x7b' (by decide), apart '[' (by decide)]
      notClosing := by simp [closes, apart '\x7d' (by decide), apart ']' (by decide)] }

theorem plain_of_mark {char : Char}
    (mark : char ∈ ['-', '+', '.', 'e', 'E', 'n', 'u', 'l', 't', 'r', 'f', 'a', 's']) :
    Plain char := by
  simp only [List.mem_cons, List.not_mem_nil, or_false] at mark
  rcases mark with rfl | rfl | rfl | rfl | rfl | rfl | rfl | rfl | rfl | rfl | rfl | rfl | rfl <;>
    exact ⟨by unfold Visible; decide, by decide, by decide, by decide⟩

theorem NumberParts.Valid.plain {parts : NumberParts} (valid : parts.Valid) :
    parts.text ≠ [] ∧ ∀ char ∈ parts.text, Plain char := by
  have digits : ∀ {text : List Char}, Digits text → ∀ char ∈ text, Plain char :=
    fun isDigits char member => plain_of_digit (isDigits.2 char member)
  constructor
  · intro empty
    simp only [NumberParts.text, List.append_eq_nil_iff] at empty
    exact valid.whole.1 empty.1.1.2
  · intro char member
    simp only [NumberParts.text, List.mem_append] at member
    rcases member with ((inSign | inWhole) | inFraction) | inExponent
    · rcases valid.sign with none | minus
      · simp [none] at inSign
      · exact plain_of_mark (by simp_all)
    · exact digits valid.whole char inWhole
    · rcases valid.fraction with none | ⟨behind, isDigits, point⟩
      · simp [none] at inFraction
      · rw [point, List.mem_cons] at inFraction
        rcases inFraction with rfl | digit
        · exact plain_of_mark (by simp)
        · exact digits isDigits char digit
    · rcases valid.exponent with none | ⟨mark, sign, power, isMark, isSign, isDigits, whole⟩
      · simp [none] at inExponent
      · rw [whole, List.mem_cons, List.mem_append] at inExponent
        rcases inExponent with rfl | inSign | digit
        · exact plain_of_mark (by simp at isMark; rcases isMark with rfl | rfl <;> simp)
        · refine plain_of_mark ?_
          simp only [List.mem_cons, List.not_mem_nil, or_false] at isSign
          rcases isSign with rfl | rfl | rfl <;> simp at inSign <;> simp [inSign]
        · exact digits isDigits char digit

theorem literal_plain {text : List Char}
    (known : text ∈ ["null".toList, "true".toList, "false".toList]) :
    text ≠ [] ∧ ∀ char ∈ text, Plain char := by
  have marks : text ≠ [] ∧ text.all
      (· ∈ ['-', '+', '.', 'e', 'E', 'n', 'u', 'l', 't', 'r', 'f', 'a', 's']) = true := by
    simp only [List.mem_cons, List.not_mem_nil, or_false] at known
    rcases known with rfl | rfl | rfl <;> decide
  refine ⟨marks.1, fun char member => plain_of_mark ?_⟩
  exact of_decide_eq_true (List.all_eq_true.1 marks.2 char member)

def VisibleEnds (text : List Char) : Prop :=
  (∃ char, text.head? = some char ∧ Visible char) ∧
    ∃ char, text.getLast? = some char ∧ Visible char

theorem visibleEnds_of_plain {text : List Char}
    (plain : text ≠ [] ∧ ∀ char ∈ text, Plain char) : VisibleEnds text :=
  ⟨⟨_, List.head?_eq_some_head plain.1, (plain.2 _ (List.head_mem plain.1)).visible⟩,
    _, List.getLast?_eq_some_getLast plain.1, (plain.2 _ (List.getLast_mem plain.1)).visible⟩

theorem visibleEnds_enclosed {first last : Char} (visibleFirst : Visible first)
    (visibleLast : Visible last) (inside : List Char) :
    VisibleEnds (first :: (inside ++ [last])) :=
  ⟨⟨first, rfl, visibleFirst⟩, last, by simp [List.getLast?_cons], visibleLast⟩

instance (char : Char) : Decidable (Visible char) :=
  inferInstanceAs (Decidable (_ ∧ _))

theorem visibleEnds_of_value {text : List Char} (spelled : Spells .value text) :
    VisibleEnds text := by
  cases spelled with
  | literal known => exact visibleEnds_of_plain (literal_plain known)
  | number valid => exact visibleEnds_of_plain valid.plain
  | string => exact visibleEnds_enclosed (by decide) (by decide) _
  | emptyArray => exact visibleEnds_enclosed (by decide) (by decide) _
  | array => exact visibleEnds_enclosed (by decide) (by decide) _
  | emptyObject => exact visibleEnds_enclosed (by decide) (by decide) _
  | object => exact visibleEnds_enclosed (by decide) (by decide) _

inductive Scan where
  | fresh
  | inside (depth : Nat)
  | string (depth : Nat) (escaped : Bool)
  | done
  | bad
deriving DecidableEq, Repr

def Scan.before : Nat → Scan
  | 0 => .fresh
  | depth + 1 => .inside depth

def Scan.behind : Nat → Scan
  | 0 => .done
  | depth + 1 => .inside depth

def Scan.step : Scan → Char → Scan
  | .fresh, char =>
    if char ∈ [' ', '\t', '\n', '\r'] then .fresh
    else if char = '"' then .string 0 false
    else if opens char then .inside 0
    else .done
  | .inside depth, char =>
    if char = '"' then .string (depth + 1) false
    else if opens char then .inside (depth + 1)
    else if closes char then .behind depth
    else .inside depth
  | .string depth true, _ => .string depth false
  | .string depth false, char =>
    if char = '\\' then .string depth true
    else if char = '"' then .behind depth
    else .string depth false
  | .done, char => if char = '"' || opens char then .bad else .done
  | .bad, _ => .bad

def scan (state : Scan) (text : List Char) : Scan :=
  text.foldl Scan.step state

@[simp] theorem scan_nil (state : Scan) : scan state [] = state := rfl

@[simp] theorem scan_cons (state : Scan) (char : Char) (rest : List Char) :
    scan state (char :: rest) = scan (state.step char) rest := rfl

@[simp] theorem scan_append (state : Scan) (first second : List Char) :
    scan state (first ++ second) = scan (scan state first) second :=
  List.foldl_append

theorem scan_bad (text : List Char) : scan .bad text = .bad := by
  induction text with
  | nil => rfl
  | cons char rest ih => exact ih

theorem step_blank {char : Char} (blank : char ∈ [' ', '\t', '\n', '\r']) (depth : Nat) :
    (Scan.before depth).step char = .before depth ∧
      (Scan.behind depth).step char = .behind depth := by
  simp only [List.mem_cons, List.not_mem_nil, or_false] at blank
  cases depth with
  | zero => rcases blank with rfl | rfl | rfl | rfl <;> decide
  | succ depth => rcases blank with rfl | rfl | rfl | rfl <;> exact ⟨rfl, rfl⟩

theorem scan_blank {text : List Char} (blank : Blank text) (depth : Nat) :
    scan (.before depth) text = .before depth ∧ scan (.behind depth) text = .behind depth := by
  induction text with
  | nil => exact ⟨rfl, rfl⟩
  | cons char rest ih =>
    obtain ⟨before, behind⟩ := step_blank (blank char List.mem_cons_self) depth
    rw [scan_cons, scan_cons, before, behind]
    exact ih fun other member => blank other (List.mem_cons_of_mem _ member)

theorem not_blank_of_visible {char : Char} (visible : Visible char) :
    char ∉ [' ', '\t', '\n', '\r'] := by
  simp only [List.mem_cons, List.not_mem_nil, or_false]
  rintro (rfl | rfl | rfl | rfl) <;> revert visible <;> decide

theorem step_plain {char : Char} (plain : Plain char) (depth : Nat) :
    (Scan.before depth).step char = .behind depth ∧
      (Scan.behind depth).step char = .behind depth := by
  have notBlank := not_blank_of_visible plain.visible
  cases depth <;>
    simp [Scan.before, Scan.behind, Scan.step, plain.notQuote, plain.notOpening,
      plain.notClosing, notBlank]

theorem scan_plain {text : List Char} (plain : text ≠ [] ∧ ∀ char ∈ text, Plain char)
    (depth : Nat) : scan (.before depth) text = .behind depth := by
  have behind : ∀ rest : List Char, (∀ char ∈ rest, Plain char) →
      scan (.behind depth) rest = .behind depth := by
    intro rest plain
    induction rest with
    | nil => rfl
    | cons char rest ih =>
      rw [List.forall_mem_cons] at plain
      rw [scan_cons, (step_plain plain.1 depth).2]
      exact ih plain.2
  obtain ⟨filled, all⟩ := plain
  cases text with
  | nil => exact absurd rfl filled
  | cons char rest =>
    rw [List.forall_mem_cons] at all
    rw [scan_cons, (step_plain all.1 depth).1]
    exact behind rest all.2

theorem scan_string {body : List Char} (inside : StringBody body) (depth : Nat) :
    scan (.string depth false) body = .string depth false := by
  induction inside with
  | nil => rfl
  | plain notQuote notEscape _ _ ih => simpa [Scan.step, notQuote, notEscape] using ih
  | escaped _ _ ih => simpa [Scan.step] using ih
  | @unicode digits rest _ hex _ ih =>
    have kept : ∀ text : List Char, (∀ char ∈ text, isHex char = true) →
        scan (.string depth false) text = .string depth false := by
      intro text all
      induction text with
      | nil => rfl
      | cons char rest ih =>
        rw [List.forall_mem_cons] at all
        have notQuote : char ≠ '"' := fun same => by simp [same, isHex] at all
        have notEscape : char ≠ '\\' := fun same => by simp [same, isHex] at all
        simpa [Scan.step, notQuote, notEscape] using ih all.2
    simpa [Scan.step, kept digits hex] using ih

theorem scan_quoted {body : List Char} (inside : StringBody body) (rest : List Char)
    (depth : Nat) :
    scan (.before depth) ('"' :: (body ++ '"' :: rest)) = scan (.behind depth) rest := by
  have opened : (Scan.before depth).step '"' = .string depth false := by
    cases depth <;> rfl
  rw [scan_cons, opened, scan_append, scan_string inside, scan_cons]
  rfl

theorem scan_enclosed {first last : Char} {inside : List Char}
    (brackets : (first, last) ∈ [('[', ']'), ('\x7b', '\x7d')]) (depth : Nat)
    (kept : scan (.inside depth) inside = .inside depth) :
    scan (.before depth) (first :: (inside ++ [last])) = .behind depth := by
  have opened : (Scan.before depth).step first = .inside depth ∧
      (Scan.inside depth).step last = .behind depth := by
    simp only [List.mem_cons, Prod.mk.injEq, List.not_mem_nil, or_false] at brackets
    rcases brackets with ⟨rfl, rfl⟩ | ⟨rfl, rfl⟩ <;> cases depth <;> exact ⟨rfl, rfl⟩
  rw [scan_cons, opened.1, scan_append, kept, scan_cons, opened.2]
  rfl

theorem scan_spells {part : Part} {text : List Char} (spelled : Spells part text) (depth : Nat) :
    match part with
    | .value | .element => scan (.before depth) text = .behind depth
    | .elements | .member | .members => scan (.inside depth) text = .inside depth := by
  induction spelled generalizing depth with
  | literal known => exact scan_plain (literal_plain known) depth
  | number valid => exact scan_plain valid.plain depth
  | string inside => exact scan_quoted inside [] depth
  | emptyArray isBlank => exact scan_enclosed (by simp) depth (scan_blank isBlank (depth + 1)).1
  | array _ ih => exact scan_enclosed (by simp) depth (ih depth)
  | emptyObject isBlank => exact scan_enclosed (by simp) depth (scan_blank isBlank (depth + 1)).1
  | object _ ih => exact scan_enclosed (by simp) depth (ih depth)
  | element blankBefore _ blankAfter ih =>
    dsimp only at ih ⊢
    rw [scan_append, scan_append, (scan_blank blankBefore depth).1, ih,
      (scan_blank blankAfter depth).2]
  | lastElement _ ih => exact ih (depth + 1)
  | elements _ _ ihFirst ihRest =>
    have first : scan (.inside depth) _ = .inside depth := ihFirst (depth + 1)
    dsimp only
    rw [scan_append, first]
    exact ihRest depth
  | member blankBefore key blankAfter _ ih =>
    have blank : scan (.inside depth) _ = .inside depth := (scan_blank blankBefore (depth + 1)).1
    have quoted := fun rest => scan_quoted key rest (depth + 1)
    have blankBehind : scan (.inside depth) _ = .inside depth :=
      (scan_blank blankAfter (depth + 1)).1
    dsimp only [Scan.before, Scan.behind] at quoted ⊢
    rw [scan_append, blank, quoted, scan_append, blankBehind]
    exact ih (depth + 1)
  | lastMember _ ih => exact ih depth
  | members _ _ ihFirst ihRest =>
    have first : scan (.inside depth) _ = .inside depth := ihFirst depth
    dsimp only
    rw [scan_append, first]
    exact ihRest depth

theorem not_text_of_more {text rest : List Char} {char : Char} (whole : JsonText text)
    (opening : char = '"' ∨ opens char = true) : ¬ JsonText (text ++ char :: rest) := by
  intro longer
  have done : scan .fresh text = .done := scan_spells whole 0
  have doneLonger : scan .fresh (text ++ char :: rest) = .done := scan_spells longer 0
  have refused : Scan.done.step char = .bad := by
    rcases opening with rfl | opening
    · rfl
    · simp [Scan.step, opening]
  rw [scan_append, done, scan_cons, refused, scan_bad] at doneLonger
  cases doneLonger

end JsonGrammar
