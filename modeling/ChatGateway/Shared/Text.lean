import Mathlib.Algebra.GroupWithZero.Nat
import Mathlib.Data.List.Basic

set_option autoImplicit false

/-!
# Text

Texts as lists of characters, with the string operations the gateway's readers are written in.
-/

namespace ChatGateway

abbrev Text := List Char

namespace Text

def fromUtf8 (bytes : List UInt8) : Option Text :=
  bytes.toByteArray.utf8Decode?.map Array.toList

def utf8 (text : Text) : List UInt8 :=
  text.flatMap String.utf8EncodeChar

def stripSuffix (mark : Char) (text : Text) : Text :=
  if text.getLast? = some mark then text.dropLast else text

def stripPrefix (mark : Char) : Text → Text
  | [] => []
  | head :: rest => if head = mark then rest else head :: rest

/-- The text before the first `mark` and the text behind it; all of it and nothing without one. -/
def splitOnce (mark : Char) (text : Text) : Text × Text :=
  (text.takeWhile (· ≠ mark), (text.dropWhile (· ≠ mark)).tail)

/-- The lines of a text: each is ended by a line feed, with a carriage return before it taken off,
and a last line without one stands as it is. -/
def lines (text : Text) : List Text :=
  let pieces := text.splitOn '\n'
  pieces.dropLast.map (stripSuffix '\r') ++
    (pieces.getLast?.filter fun line => !line.isEmpty).toList

/-- The characters with the Unicode property `White_Space`. -/
def isWhitespace (letter : Char) : Bool :=
  let code := letter.toNat
  (0x9 ≤ code && code ≤ 0xd) || code = 0x20 || code = 0x85 || code = 0xa0 || code = 0x1680 ||
    (0x2000 ≤ code && code ≤ 0x200a) || code = 0x2028 || code = 0x2029 || code = 0x202f ||
    code = 0x205f || code = 0x3000

def trim (text : Text) : Text :=
  ((text.dropWhile isWhitespace).reverse.dropWhile isWhitespace).reverse

def join (mark : Text) (texts : List Text) : Text :=
  mark.intercalate texts

theorem fromUtf8_utf8 (text : Text) : fromUtf8 text.utf8 = some text := by
  have decoded := List.utf8Decode?_utf8Encode (l := text)
  rw [List.utf8Encode] at decoded
  simp [fromUtf8, utf8, decoded]

theorem splitOnce_of_missing {mark : Char} {text : Text} (missing : mark ∉ text) :
    text.splitOnce mark = (text, []) := by
  induction text with
  | nil => rfl
  | cons head rest ih =>
    obtain ⟨other, later⟩ : mark ≠ head ∧ mark ∉ rest := by simpa using missing
    have known := ih later
    simp only [splitOnce, Prod.mk.injEq] at known ⊢
    simpa [List.takeWhile_cons, List.dropWhile_cons, Ne.symm other] using known

theorem splitOnce_of_append {mark : Char} {field : Text} (value : Text) (missing : mark ∉ field) :
    splitOnce mark (field ++ mark :: value) = (field, value) := by
  induction field with
  | nil => simp [splitOnce]
  | cons head rest ih =>
    obtain ⟨other, later⟩ : mark ≠ head ∧ mark ∉ rest := by simpa using missing
    have known := ih later
    simp only [splitOnce, Prod.mk.injEq] at known ⊢
    simpa [List.takeWhile_cons, List.dropWhile_cons, Ne.symm other] using known

theorem splitOnce_cases (mark : Char) (text : Text) :
    (mark ∉ text ∧ text.splitOnce mark = (text, [])) ∨
      ∃ field value, mark ∉ field ∧ text = field ++ mark :: value ∧
        text.splitOnce mark = (field, value) := by
  by_cases present : mark ∈ text
  · obtain ⟨field, value, rfl, missing⟩ := List.eq_append_cons_of_mem present
    exact .inr ⟨field, value, missing, rfl, splitOnce_of_append value missing⟩
  · exact .inl ⟨present, splitOnce_of_missing present⟩

theorem stripPrefix_concat {mark last : Char} (text : Text) (other : last ≠ mark) :
    (text ++ [last]).stripPrefix mark = text.stripPrefix mark ++ [last] := by
  cases text with
  | nil => simp [stripPrefix, other]
  | cons head rest =>
    simp only [List.cons_append, stripPrefix]
    split <;> rfl

theorem stripSuffix_concat (mark : Char) (text : Text) : (text ++ [mark]).stripSuffix mark = text := by
  simp [stripSuffix]

theorem stripSuffix_cases (mark : Char) (text : Text) :
    text.stripSuffix mark = text ∨ text = text.stripSuffix mark ++ [mark] := by
  unfold stripSuffix
  split
  · next ends =>
    exact .inr (List.dropLast_append_getLast? mark ends).symm
  · exact .inl rfl

theorem join_concat_append (mark : Text) (texts : List Text) (last more : Text) :
    join mark (texts ++ [last ++ more]) = join mark (texts ++ [last]) ++ more := by
  induction texts with
  | nil => simp [join, List.intercalate]
  | cons head rest ih =>
    cases rest <;> simp_all [join, List.intercalate]

theorem join_concat_nil {mark : Text} {texts : List Text} (nonempty : texts ≠ []) :
    join mark (texts ++ [[]]) = join mark texts ++ mark := by
  induction texts with
  | nil => exact absurd rfl nonempty
  | cons head rest ih =>
    cases rest with
    | nil => simp [join, List.intercalate]
    | cons next more =>
      have known := ih (by simp)
      simp_all [join, List.intercalate]

end Text

def isBlank (text : String) : Bool :=
  (Text.trim text.toList).isEmpty

end ChatGateway
