import Mathlib.Init

set_option autoImplicit false

/-!
# Operations that may be run twice

A caller that loses the reply of an operation runs it again. The operation can tell when the store
keeps a record of the first run for long enough.
-/

structure ReplayScheme (S R T : Type) where
  run : Int → S → R × S
  /-- The replies that leave a record. -/
  committed : R → Prop
  /-- The store as a run at that time finds it. -/
  found : Int → S → S
  record : S → T
  /-- What others may do to the record without giving it up. -/
  keeps : T → T → Prop
  /-- The record still counts at that time. -/
  current : Int → T → Prop
  /-- What a run that recognises its record does to the store. -/
  tidy : Int → S → S

namespace ReplayScheme

variable {S R T : Type} (scheme : ReplayScheme S R T)

/-- A second run repeats the reply of a committed run and only tidies, whatever happened to the rest
of the store in between. -/
def Harmless : Prop :=
  ∀ (first second : Int) (state between : S), scheme.committed (scheme.run first state).1 →
    scheme.keeps (scheme.record (scheme.run first state).2)
      (scheme.record (scheme.found second between)) →
    scheme.current second (scheme.record (scheme.run first state).2) →
      scheme.run second between =
        ((scheme.run first state).1, scheme.tidy second (scheme.found second between))

def Lasts (Unused : Int → S → Prop) (lifetime : Int) : Prop :=
  ∀ (first second : Int) (state : S), Unused first (scheme.found first state) →
    scheme.committed (scheme.run first state).1 → first ≤ second → second < first + lifetime →
      scheme.current second (scheme.record (scheme.run first state).2)

structure Safe (Unused : Int → S → Prop) (lifetime : Int) : Prop where
  harmless : scheme.Harmless
  lasts : scheme.Lasts Unused lifetime

variable {scheme}

theorem harmless_of_replies (replies : T → R)
    (leaves : ∀ now later state, scheme.committed (scheme.run now state).1 →
      scheme.current later (scheme.record (scheme.run now state).2) →
        (scheme.run now state).1 = replies (scheme.record (scheme.run now state).2))
    (carries : ∀ now old new, scheme.keeps old new → scheme.current now old →
      scheme.current now new ∧ replies new = replies old)
    (repeats : ∀ now state, scheme.current now (scheme.record (scheme.found now state)) →
      scheme.run now state =
        (replies (scheme.record (scheme.found now state)),
          scheme.tidy now (scheme.found now state))) : scheme.Harmless := by
  intro first second state between committed kept current
  obtain ⟨still, same⟩ := carries second _ _ kept current
  rw [leaves first second state committed current, ← same]
  exact repeats second between still

theorem harmless_of_reply (reply : R) (only : ∀ answer, scheme.committed answer → answer = reply)
    (carries : ∀ now old new, scheme.keeps old new → scheme.current now old →
      scheme.current now new)
    (repeats : ∀ now state, scheme.current now (scheme.record (scheme.found now state)) →
      scheme.run now state = (reply, scheme.tidy now (scheme.found now state))) :
    scheme.Harmless :=
  harmless_of_replies (fun _ => reply) (fun _ _ _ committed _ => only _ committed)
    (fun now old new kept current => ⟨carries now old new kept current, rfl⟩) repeats

end ReplayScheme
