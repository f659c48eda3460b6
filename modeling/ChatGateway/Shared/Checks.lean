import ChatGateway.Shared.Fallible
import Mathlib.Data.List.Forall2

set_option autoImplicit false

/-!
# Lists of checks

Checks that run one after another until the first one fails.
-/

namespace Checks

variable {E A B : Type}

theorem then_eq_ok {first : Except E Unit} {next : Unit → Except E B} {result : B} :
    (first >>= next) = .ok result ↔ first = .ok () ∧ next () = .ok result := by
  rw [Except.bind_eq_ok]
  constructor
  · rintro ⟨⟨⟩, passed, later⟩
    exact ⟨passed, later⟩
  · rintro ⟨passed, later⟩
    exact ⟨(), passed, later⟩

def each (check : A → Except E Unit) : List A → Except E Unit
  | [] => .ok ()
  | item :: rest => check item >>= fun _ => each check rest

theorem each_eq_ok {check : A → Except E Unit} {items : List A} :
    each check items = .ok () ↔ ∀ item ∈ items, check item = .ok () := by
  induction items with
  | nil => simp [each]
  | cons item rest ih =>
    rw [each, then_eq_ok, List.forall_mem_cons, ih]

def reject (bad : Prop) [Decidable bad] (failure : E) : Except E Unit :=
  if bad then .error failure else .ok ()

theorem reject_eq_ok {bad : Prop} [Decidable bad] {failure : E} :
    reject bad failure = .ok () ↔ ¬bad := by
  unfold reject
  split
  next held => simp [held]
  next clear => simp [clear]

def refuse : Option E → Except E Unit
  | none => .ok ()
  | some failure => .error failure

theorem refuse_eq_ok {found : Option E} : refuse found = .ok () ↔ found = none := by
  cases found <;> simp [refuse]

def pairs (check : A → A → Except E Unit) : List A → Except E Unit
  | [] => .ok ()
  | item :: rest => each (check item) rest >>= fun _ => pairs check rest

def build (make : A → Except E B) : List A → Except E (List B)
  | [] => .ok []
  | item :: rest =>
    make item >>= fun made => build make rest >>= fun others => .ok (made :: others)

theorem build_eq_ok {make : A → Except E B} {items : List A} {built : List B} :
    build make items = .ok built ↔
      List.Forall₂ (fun item made => make item = .ok made) items built := by
  induction items generalizing built with
  | nil =>
    rw [build, List.forall₂_nil_left_iff, Except.ok.injEq]
    exact eq_comm
  | cons item rest ih =>
    rw [build, Except.bind_eq_ok, List.forall₂_cons_left_iff]
    constructor
    · rintro ⟨made, passed, later⟩
      rw [Except.bind_eq_ok] at later
      obtain ⟨others, others_built, same⟩ := later
      cases same
      exact ⟨made, others, passed, ih.mp others_built, rfl⟩
    · rintro ⟨made, others, passed, later, rfl⟩
      refine ⟨made, passed, ?_⟩
      rw [ih.mpr later]
      rfl

end Checks
