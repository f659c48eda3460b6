import Mathlib.Data.List.Basic

set_option autoImplicit false

/-!
# Scanning

A scan of a text from the left. Where a shape stands, a piece is written for it and the scan goes on
behind it. Every other letter is copied.
-/

namespace Scanner

variable {A B : Type}

abbrev Shape (A : Type) := List A → Option (List A × List A)

def Cuts (shape : Shape A) : Prop :=
  ∀ ⦃text piece behind⦄, shape text = some (piece, behind) →
    ∃ span, span ≠ [] ∧ text = span ++ behind

def scanFrom (shape : Shape A) : Nat → List A → List A
  | 0, _ => []
  | _ + 1, [] => []
  | fuel + 1, letter :: rest =>
    match shape (letter :: rest) with
    | some (piece, behind) => piece ++ scanFrom shape fuel behind
    | none => letter :: scanFrom shape fuel rest

-- Every step takes at least one letter, so the length is fuel enough.
def scan (shape : Shape A) (text : List A) : List A :=
  scanFrom shape text.length text

inductive Reading (shape : Shape A) : List A → List A → Prop
  | done : Reading shape [] []
  | cut {text piece behind out : List A} : shape text = some (piece, behind) →
      Reading shape behind out → Reading shape text (piece ++ out)
  | copy {letter : A} {rest out : List A} : shape (letter :: rest) = none →
      Reading shape rest out → Reading shape (letter :: rest) (letter :: out)

inductive Stands (shape : Shape A) : List A → List A → Prop
  | here (text : List A) : Stands shape text text
  | cut {text piece behind rest : List A} : shape text = some (piece, behind) →
      Stands shape behind rest → Stands shape text rest
  | copy {letter : A} {text rest : List A} : shape (letter :: text) = none →
      Stands shape text rest → Stands shape (letter :: text) rest

theorem run_ends {good : A → Bool} {run : List A} (behind : List A)
    (inside : ∀ letter ∈ run, good letter) (ended : ∀ letter ∈ behind.head?, good letter = false) :
    (run ++ behind).takeWhile good = run ∧ (run ++ behind).dropWhile good = behind := by
  rw [List.takeWhile_append_of_pos inside, List.dropWhile_append_of_pos inside]
  cases behind with
  | nil => simp
  | cons letter rest =>
    have other : good letter = false := ended letter rfl
    simp [other]

theorem first_parts {last : A} {run front behind rest : List A} (inside : last ∉ run)
    (same : run ++ last :: behind = front ++ last :: rest) :
    (front = run ∧ behind = rest) ∨ ∃ more, front = run ++ last :: more ∧
      behind = more ++ last :: rest := by
  induction run generalizing front with
  | nil =>
    cases front with
    | nil => exact .inl ⟨rfl, by simpa using same⟩
    | cons letter more =>
      obtain ⟨rfl, later⟩ := List.cons.inj same
      exact .inr ⟨more, rfl, later⟩
  | cons letter run ih =>
    obtain ⟨apart, later⟩ : last ≠ letter ∧ last ∉ run := by simpa using inside
    cases front with
    | nil => exact absurd (List.cons.inj same).1.symm apart
    | cons head more =>
      obtain ⟨rfl, behindHead⟩ := List.cons.inj same
      rcases ih later behindHead with ⟨rfl, rest⟩ | ⟨more, rfl, rest⟩
      · exact .inl ⟨rfl, rest⟩
      · exact .inr ⟨more, rfl, rest⟩

section Readings

variable {shape : Shape A} (cuts : Cuts shape)
include cuts

theorem Cuts.shorter {text piece behind : List A} (cut : shape text = some (piece, behind)) :
    behind.length < text.length := by
  obtain ⟨span, some_letter, rfl⟩ := cuts cut
  have positive := List.length_pos_of_ne_nil some_letter
  rw [List.length_append]
  omega

theorem Cuts.nil : shape [] = none := by
  cases found : shape [] with
  | none => rfl
  | some cut => exact absurd (cuts.shorter found) (Nat.not_lt_zero _)

theorem reading_scanFrom (fuel : Nat) (text : List A) (enough : text.length ≤ fuel) :
    Reading shape text (scanFrom shape fuel text) := by
  induction fuel generalizing text with
  | zero =>
    rw [List.length_eq_zero_iff.1 (Nat.le_zero.1 enough)]
    exact .done
  | succ fuel ih =>
    cases text with
    | nil => exact .done
    | cons letter rest =>
      simp only [scanFrom]
      split
      · next found =>
        have shorter := cuts.shorter found
        exact .cut found (ih _ (by omega))
      · next missing =>
        exact .copy missing (ih rest (by simpa using enough))

theorem reading_scan (text : List A) : Reading shape text (scan shape text) :=
  reading_scanFrom cuts text.length text (Nat.le_refl _)

theorem Reading.of_cut {text piece behind out : List A} (found : shape text = some (piece, behind))
    (reading : Reading shape text out) :
    ∃ rest, out = piece ++ rest ∧ Reading shape behind rest := by
  cases reading with
  | done => exact absurd found (by simp [cuts.nil])
  | cut again after =>
    obtain ⟨rfl, rfl⟩ : _ ∧ _ := by simpa [found] using again
    exact ⟨_, rfl, after⟩
  | copy missing _ => simp [found] at missing

theorem Reading.unique {text first second : List A} (one : Reading shape text first)
    (other : Reading shape text second) : first = second := by
  induction one generalizing second with
  | done =>
    cases other with
    | done => rfl
    | cut found _ => exact absurd found (by simp [cuts.nil])
  | cut found _ ih =>
    obtain ⟨rest, rfl, after⟩ := other.of_cut cuts found
    rw [ih after]
  | copy missing _ ih =>
    cases other with
    | cut found _ => simp [missing] at found
    | copy _ after => rw [ih after]

theorem scan_eq {text out : List A} (reading : Reading shape text out) : scan shape text = out :=
  (reading_scan cuts text).unique cuts reading

-- What all letters of a text are, and all letters written for its shapes, all letters of the
-- output are.
theorem Reading.letters (Good : A → Prop)
    (written : ∀ {text piece behind}, shape text = some (piece, behind) →
      (∀ letter ∈ text, Good letter) → ∀ letter ∈ piece, Good letter)
    {text out : List A} (reading : Reading shape text out) (good : ∀ letter ∈ text, Good letter) :
    ∀ letter ∈ out, Good letter := by
  induction reading with
  | done => exact good
  | cut found _ ih =>
    obtain ⟨span, -, rfl⟩ := cuts found
    have later := ih fun letter member => good letter (List.mem_append_right _ member)
    intro letter member
    rcases List.mem_append.1 member with early | late
    · exact written found good letter early
    · exact later letter late
  | copy _ _ ih =>
    obtain ⟨head, rest⟩ := List.forall_mem_cons.1 good
    exact List.forall_mem_cons.2 ⟨head, ih rest⟩

end Readings

variable {shape : Shape A}

theorem Reading.of_copy {letter : A} {text out : List A} (missing : shape (letter :: text) = none)
    (reading : Reading shape (letter :: text) out) :
    ∃ rest, out = letter :: rest ∧ Reading shape text rest := by
  generalize whole : letter :: text = all at reading missing
  cases reading with
  | done => cases whole
  | cut found _ => simp [found] at missing
  | copy _ after =>
    obtain ⟨rfl, rfl⟩ := List.cons.inj whole
    exact ⟨_, rfl, after⟩

-- What holds of every copied letter and of every letter of a piece, each with the output behind
-- it.
theorem Reading.suffixes {Holds : List A → Prop} (empty : Holds [])
    (pieces : ∀ {text piece behind tail out}, shape text = some (piece, behind) → tail ≠ [] →
      tail <:+ piece → Holds (tail ++ out))
    (copies : ∀ {letter rest out}, shape (letter :: rest) = none → Reading shape rest out →
      Holds (letter :: out))
    {text out : List A} (reading : Reading shape text out) : ∀ tail, tail <:+ out → Holds tail := by
  induction reading with
  | done =>
    intro tail suffix
    rw [List.suffix_nil.1 suffix]
    exact empty
  | @cut text piece behind out found after ih =>
    intro tail suffix
    by_cases short : tail.length ≤ out.length
    · exact ih tail (List.suffix_of_suffix_length_le suffix (List.suffix_append _ _) short)
    · obtain ⟨front, whole⟩ := suffix
      rcases List.append_eq_append_iff.1 whole with ⟨rest, split, same⟩ | ⟨rest, split, same⟩
      · rw [same]
        refine pieces found ?_ ⟨front, split.symm⟩
        rintro rfl
        simp [same] at short
      · rw [same, List.length_append] at short
        omega
  | @copy letter rest out missing after ih =>
    intro tail suffix
    rcases List.suffix_cons_iff.1 suffix with rfl | later
    · exact copies missing after
    · exact ih tail later

theorem Reading.copies {piece text out : List A}
    (absent : ∀ tail, tail ≠ [] → tail <:+ piece → shape (tail ++ text) = none)
    (reading : Reading shape text out) : Reading shape (piece ++ text) (piece ++ out) := by
  induction piece with
  | nil => exact reading
  | cons letter rest ih =>
    have later := ih fun tail some_letter suffix =>
      absent tail some_letter (suffix.trans (List.suffix_cons _ _))
    exact .copy (absent _ (List.cons_ne_nil _ _) List.suffix_rfl) later

-- The output reads as itself when every piece does and no shape comes to stand at a copied
-- letter.
theorem Reading.again
    (pieces : ∀ {text piece behind out}, shape text = some (piece, behind) →
      Reading shape out out → Reading shape (piece ++ out) (piece ++ out))
    (absent : ∀ {letter rest out}, shape (letter :: rest) = none → Reading shape rest out →
      shape (letter :: out) = none)
    {text out : List A} (reading : Reading shape text out) : Reading shape out out := by
  induction reading with
  | done => exact .done
  | cut found _ ih => exact pieces found ih
  | copy missing after ih => exact .copy (absent missing after) ih

theorem Stands.trans {text middle rest : List A} (first : Stands shape text middle)
    (second : Stands shape middle rest) : Stands shape text rest := by
  induction first with
  | here _ => exact second
  | cut found _ ih => exact .cut found (ih second)
  | copy missing _ ih => exact .copy missing (ih second)

end Scanner
