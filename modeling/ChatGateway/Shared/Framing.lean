import Mathlib.Data.List.Basic

set_option autoImplicit false

/-!
# Splitting a sequence at delimiters

A sequence is read piece by piece: each piece ends at the leftmost delimiter, and reading goes on
behind it. What matters to a reader that receives the sequence in parts is that a cut once found
is never moved by what arrives later.
-/

namespace ChatGateway

variable {α : Type}

structure Delimiter (α : Type) where
  at? : List α → Option Nat
  positive : ∀ text length, at? text = some length → 0 < length
  within : ∀ text length, at? text = some length → length ≤ text.length
  grows : ∀ text more length, at? text = some length → at? (text ++ more) = some length
  owned : ∀ text more length, at? (text ++ more) = some length → length ≤ text.length →
    at? text = some length
  -- A delimiter that is only begun at the end of a text has no complete one inside it.
  separate : ∀ text more, at? text = none → at? (text ++ more) ≠ none →
    ∀ offset, at? (text.drop offset) = none

namespace Delimiter

variable (delimiter : Delimiter α)

def cut : List α → Option (List α × Nat)
  | [] => none
  | head :: rest =>
    match delimiter.at? (head :: rest) with
    | some length => some ([], length)
    | none => (cut rest).map fun found => (head :: found.1, found.2)

/-- Reads the pieces from left to right; `skip` elements still belong to the delimiter before. -/
def splitFrom : Nat → List α → List α → List (List α × Nat) × List α
  | _, piece, [] => ([], piece)
  | skip + 1, piece, _ :: rest => splitFrom skip piece rest
  | 0, piece, head :: rest =>
    match delimiter.at? (head :: rest) with
    | some length =>
      let behind := splitFrom (length - 1) [] rest
      ((piece, length) :: behind.1, behind.2)
    | none => splitFrom 0 (piece ++ [head]) rest

def split (text : List α) : List (List α × Nat) × List α :=
  delimiter.splitFrom 0 [] text

variable {delimiter}

theorem at?_nil : delimiter.at? [] = none := by
  cases found : delimiter.at? [] with
  | none => rfl
  | some length =>
    have positive := delimiter.positive _ _ found
    have within := delimiter.within _ _ found
    simp at within
    omega

theorem cut_cons_of_delimiter {head : α} {rest : List α} {length : Nat}
    (found : delimiter.at? (head :: rest) = some length) :
    delimiter.cut (head :: rest) = some ([], length) := by
  simp [cut, found]

theorem cut_cons_of_none {head : α} {rest : List α} (missing : delimiter.at? (head :: rest) = none) :
    delimiter.cut (head :: rest) =
      (delimiter.cut rest).map fun found => (head :: found.1, found.2) := by
  simp [cut, missing]

theorem cut_eq_some {text piece : List α} {length : Nat} :
    delimiter.cut text = some (piece, length) ↔
      text.take piece.length = piece ∧ delimiter.at? (text.drop piece.length) = some length ∧
        ∀ offset < piece.length, delimiter.at? (text.drop offset) = none := by
  induction text generalizing piece with
  | nil => simp [cut, at?_nil]
  | cons head rest ih =>
    cases found : delimiter.at? (head :: rest) with
    | some other =>
      rw [cut_cons_of_delimiter found]
      constructor
      · rintro same
        obtain ⟨rfl, rfl⟩ : [] = piece ∧ other = length := by simpa using same
        simp [found]
      · rintro ⟨-, here, before⟩
        cases piece with
        | nil => simpa [found] using here
        | cons first more => simpa [found] using before 0 (by simp)
    | none =>
      rw [cut_cons_of_none found]
      cases piece with
      | nil => simp [found]
      | cons first more =>
        simp only [Option.map_eq_some_iff, Prod.mk.injEq, List.cons.injEq, Prod.exists,
          List.length_cons, List.take_succ_cons, List.drop_succ_cons]
        constructor
        · rintro ⟨_, _, cutRest, ⟨rfl, rfl⟩, rfl⟩
          obtain ⟨taken, here, before⟩ := ih.1 cutRest
          refine ⟨⟨rfl, taken⟩, here, fun offset below => ?_⟩
          cases offset with
          | zero => simpa using found
          | succ offset => simpa using before offset (by omega)
        · rintro ⟨⟨rfl, taken⟩, here, before⟩
          refine ⟨more, length, ih.2 ⟨taken, here, fun offset below => ?_⟩, ⟨rfl, rfl⟩, rfl⟩
          simpa using before (offset + 1) (by omega)

theorem cut_eq_none {text : List α} :
    delimiter.cut text = none ↔ ∀ offset, delimiter.at? (text.drop offset) = none := by
  induction text with
  | nil => simp [cut, at?_nil]
  | cons head rest ih =>
    cases found : delimiter.at? (head :: rest) with
    | some length =>
      simp only [cut_cons_of_delimiter found, reduceCtorEq, false_iff, not_forall]
      exact ⟨0, by simp [found]⟩
    | none =>
      rw [cut_cons_of_none found, Option.map_eq_none_iff, ih]
      constructor
      · intro missing offset
        cases offset with
        | zero => simpa using found
        | succ offset => simpa using missing offset
      · intro missing offset
        simpa using missing (offset + 1)

theorem cut_length {text piece : List α} {length : Nat}
    (found : delimiter.cut text = some (piece, length)) :
    0 < length ∧ piece.length + length ≤ text.length := by
  obtain ⟨taken, here, -⟩ := cut_eq_some.1 found
  have positive := delimiter.positive _ _ here
  have within := delimiter.within _ _ here
  rw [List.length_drop] at within
  omega

theorem cut_append {text piece : List α} {length : Nat} (more : List α)
    (found : delimiter.cut text = some (piece, length)) :
    delimiter.cut (text ++ more) = some (piece, length) := by
  obtain ⟨taken, here, before⟩ := cut_eq_some.1 found
  have bound := cut_length found
  refine cut_eq_some.2 ⟨?_, ?_, fun offset below => ?_⟩
  · rw [List.take_append_of_le_length (by omega), taken]
  · rw [List.drop_append_of_le_length (by omega)]
    exact delimiter.grows _ _ _ here
  · rw [List.drop_append_of_le_length (by omega)]
    by_contra moved
    have inside := delimiter.separate _ _ (before offset below) moved (piece.length - offset)
    rw [List.drop_drop, Nat.add_sub_cancel' (by omega)] at inside
    simp [inside] at here

-- A cut that only appears with what arrives later ends behind everything seen before.
theorem lt_of_cut_append {text more piece : List α} {length : Nat}
    (unseen : delimiter.cut text = none)
    (found : delimiter.cut (text ++ more) = some (piece, length)) :
    text.length < piece.length + length := by
  by_contra early
  obtain ⟨-, here, -⟩ := cut_eq_some.1 found
  rw [List.drop_append_of_le_length (by omega)] at here
  have present := delimiter.owned _ _ _ here (by rw [List.length_drop]; omega)
  simp [cut_eq_none.1 unseen piece.length] at present

theorem cut_drop {text : List α} (start : Nat) (bounded : start ≤ text.length)
    (passed : ∀ offset < start, delimiter.at? (text.drop offset) = none) :
    delimiter.cut text =
      (delimiter.cut (text.drop start)).map fun found => (text.take start ++ found.1, found.2) := by
  induction start generalizing text with
  | zero => simp
  | succ start ih =>
    cases text with
    | nil => simp at bounded
    | cons head rest =>
      have here : delimiter.at? (head :: rest) = none := by
        simpa using passed 0 (by omega)
      have later : ∀ offset < start, delimiter.at? (rest.drop offset) = none := by
        intro offset below
        simpa using passed (offset + 1) (by omega)
      rw [cut_cons_of_none here, ih (by simpa using bounded) later]
      simp [Function.comp_def]

theorem splitFrom_skip (skip : Nat) (piece text : List α) :
    delimiter.splitFrom skip piece text = delimiter.splitFrom 0 piece (text.drop skip) := by
  induction skip generalizing text with
  | zero => simp
  | succ skip ih =>
    cases text with
    | nil => simp [splitFrom]
    | cons head rest => simpa [splitFrom] using ih rest

theorem splitFrom_of_none {text : List α} (piece : List α) (missing : delimiter.cut text = none) :
    delimiter.splitFrom 0 piece text = ([], piece ++ text) := by
  induction text generalizing piece with
  | nil => simp [splitFrom]
  | cons head rest ih =>
    have unfound : delimiter.at? (head :: rest) = none := by
      simpa using cut_eq_none.1 missing 0
    rw [cut_cons_of_none unfound, Option.map_eq_none_iff] at missing
    simp [splitFrom, unfound, ih (piece ++ [head]) missing]

theorem splitFrom_of_some {text found : List α} {length : Nat} (piece : List α)
    (present : delimiter.cut text = some (found, length)) :
    delimiter.splitFrom 0 piece text =
      ((piece ++ found, length) :: (delimiter.split (text.drop (found.length + length))).1,
        (delimiter.split (text.drop (found.length + length))).2) := by
  induction text generalizing piece found with
  | nil => simp [cut] at present
  | cons head rest ih =>
    cases here : delimiter.at? (head :: rest) with
    | some other =>
      rw [cut_cons_of_delimiter here] at present
      obtain ⟨rfl, rfl⟩ : [] = found ∧ other = length := by simpa using present
      have positive := delimiter.positive _ _ here
      obtain ⟨before, rfl⟩ : ∃ before, other = before + 1 := ⟨other - 1, by omega⟩
      simp [splitFrom, here, splitFrom_skip before, split]
    | none =>
      rw [cut_cons_of_none here, Option.map_eq_some_iff] at present
      obtain ⟨⟨more, _⟩, cutRest, same⟩ := present
      obtain ⟨rfl, rfl⟩ : head :: more = found ∧ _ = length := by simpa using same
      simp [splitFrom, here, ih (piece ++ [head]) cutRest, Nat.succ_add]

theorem split_of_none {text : List α} (missing : delimiter.cut text = none) :
    delimiter.split text = ([], text) := by
  simpa [split] using splitFrom_of_none [] missing

theorem split_of_some {text piece : List α} {length : Nat}
    (present : delimiter.cut text = some (piece, length)) :
    delimiter.split text =
      ((piece, length) :: (delimiter.split (text.drop (piece.length + length))).1,
        (delimiter.split (text.drop (piece.length + length))).2) := by
  simpa [split] using splitFrom_of_some [] present

theorem split_induction (delimiter : Delimiter α) {motive : List α → Prop}
    (uncut : ∀ text, delimiter.cut text = none → motive text)
    (cut : ∀ text piece length, delimiter.cut text = some (piece, length) →
      motive (text.drop (piece.length + length)) → motive text) (text : List α) : motive text :=
  match found : delimiter.cut text with
  | none => uncut text found
  | some (piece, length) => cut text piece length found (split_induction delimiter uncut cut _)
termination_by text.length
decreasing_by
  have bound := cut_length found
  rw [List.length_drop]
  omega

theorem cut_split_rest (text : List α) : delimiter.cut (delimiter.split text).2 = none := by
  induction text using split_induction delimiter with
  | uncut text missing => simpa [split_of_none missing] using missing
  | cut text piece length found ih => simpa [split_of_some found] using ih

-- A text that arrives in two parts is split where the first part's rest is read on.
theorem split_append (text more : List α) :
    delimiter.split (text ++ more) =
      ((delimiter.split text).1 ++ (delimiter.split ((delimiter.split text).2 ++ more)).1,
        (delimiter.split ((delimiter.split text).2 ++ more)).2) := by
  induction text using split_induction delimiter with
  | uncut text missing => simp [split_of_none missing]
  | cut text piece length found ih =>
    have bound := cut_length found
    rw [split_of_some (cut_append more found), split_of_some found,
      List.drop_append_of_le_length bound.2, ih]
    simp

theorem cut_take {text piece : List α} {length : Nat}
    (found : delimiter.cut text = some (piece, length)) :
    delimiter.cut (text.take (piece.length + length)) = some (piece, length) := by
  have bound := cut_length found
  have parts := List.take_append_drop (piece.length + length) text
  cases first : delimiter.cut (text.take (piece.length + length)) with
  | none =>
    rw [← parts] at found
    have behind := lt_of_cut_append first found
    rw [List.length_take] at behind
    omega
  | some other =>
    have whole := cut_append (text.drop (piece.length + length)) first
    rw [parts, found] at whole
    exact whole.symm

theorem split_between {text : List α} {before behind : List (List α × Nat)}
    (pieces : (delimiter.split text).1 = before ++ behind) :
    ∃ first second, text = first ++ second ∧ delimiter.split first = (before, []) ∧
      (delimiter.split second).1 = behind := by
  induction before generalizing text with
  | nil => exact ⟨[], text, rfl, split_of_none rfl, pieces⟩
  | cons head rest ih =>
    cases found : delimiter.cut text with
    | none => simp [split_of_none found] at pieces
    | some cut =>
      obtain ⟨piece, length⟩ := cut
      have bound := cut_length found
      rw [split_of_some found, List.cons_append, List.cons.injEq] at pieces
      obtain ⟨rfl, later⟩ := pieces
      obtain ⟨first, second, parted, ended, rests⟩ := ih later
      refine ⟨text.take (piece.length + length) ++ first, second, ?_, ?_, rests⟩
      · rw [List.append_assoc, ← parted, List.take_append_drop]
      · have size : (text.take (piece.length + length)).length = piece.length + length := by
          rw [List.length_take]
          omega
        rw [split_of_some (cut_append first (cut_take found)), List.drop_left' size, ended]

end Delimiter

end ChatGateway
