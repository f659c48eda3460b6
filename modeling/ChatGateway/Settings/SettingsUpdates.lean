import ChatGateway.Settings.SavedSettings

set_option autoImplicit false

/-!
# Updates of the saved settings

An update names the revision it was made from, and is refused when another one has been saved since.
The document is stored before the process takes it over.
-/

namespace ChatGateway

inductive RuntimeSettingsSource where
  | startup
  | persisted
deriving DecidableEq

inductive RuntimeSettingsUpdateError where
  | validation (error : RuntimeSettingsValidationError)
  | revisionConflict (expectedRevision currentRevision : UInt64)
  | revisionExhausted
  | persist

/-- `stored` is the document that the next start loads. -/
structure SettingsState where
  persisted : Option RuntimeSettingsDocument
  stored : Option RuntimeSettingsDocument
  runtimeSettings : StoredSettings

structure SettingsUpdate where
  expectedRevision : UInt64
  settings : StoredSettings
  now : UInt64
  persists : Bool

namespace SettingsState

def runtimeSettingsDocument (state : SettingsState) :
    RuntimeSettingsSource × RuntimeSettingsDocument :=
  let saved := (state.persisted.filter fun document =>
    document.schemaVersion = runtimeSettingsSchemaVersion).bind fun document =>
      document.settings.validateAndNormalize.toOption.map fun settings =>
        { document with settings }
  match saved with
  | some document => (.persisted, document)
  | none =>
    (.startup,
      { schemaVersion := runtimeSettingsSchemaVersion
        revision := 0
        updatedAt := 0
        settings := state.runtimeSettings })

def revision (state : SettingsState) : UInt64 :=
  state.runtimeSettingsDocument.2.revision

def updateRuntimeSettings (state : SettingsState) (update : SettingsUpdate) :
    Except RuntimeSettingsUpdateError (SettingsState × RuntimeSettingsDocument) :=
  match update.settings.validateAndNormalize with
  | .error error => .error (.validation error)
  | .ok settings =>
    if state.revision ≠ update.expectedRevision then
      .error (.revisionConflict update.expectedRevision state.revision)
    else if state.revision.toNat + 1 = 2 ^ 64 then .error .revisionExhausted
    else
      let document : RuntimeSettingsDocument :=
        { schemaVersion := runtimeSettingsSchemaVersion
          revision := state.revision + 1
          updatedAt := update.now
          settings }
      if !update.persists then .error .persist
      else
        .ok ({ persisted := some document, stored := some document, runtimeSettings := settings },
          document)

def updateAll (state : SettingsState) :
    List SettingsUpdate → SettingsState × List (SettingsUpdate × RuntimeSettingsDocument)
  | [] => (state, [])
  | update :: rest =>
    match state.updateRuntimeSettings update with
    | .error _ => state.updateAll rest
    | .ok (next, document) =>
      ((next.updateAll rest).1, (update, document) :: (next.updateAll rest).2)

variable {state next : SettingsState} {update : SettingsUpdate} {document : RuntimeSettingsDocument}

structure Accepts (state next : SettingsState) (update : SettingsUpdate)
    (document : RuntimeSettingsDocument) : Prop where
  normal : update.settings.validateAndNormalize = .ok document.settings
  expected : state.revision = update.expectedRevision
  revision : document.revision.toNat = state.revision.toNat + 1
  schema : document.schemaVersion = runtimeSettingsSchemaVersion
  next : next =
    { persisted := some document, stored := some document, runtimeSettings := document.settings }

theorem accepts_of_ok (updated : state.updateRuntimeSettings update = .ok (next, document)) :
    Accepts state next update document := by
  rw [updateRuntimeSettings] at updated
  split at updated
  · cases updated
  · next settings accepted =>
    split at updated
    · cases updated
    · next same =>
      split at updated
      · cases updated
      · next room =>
        dsimp only at updated
        split at updated
        · cases updated
        · cases updated
          refine ⟨accepted, not_not.1 same, ?_, rfl, rfl⟩
          -- The revision has room for one more, so it does not wrap.
          have bound := state.revision.toNat_lt
          rw [UInt64.toNat_add, UInt64.toNat_one, Nat.mod_eq_of_lt (by omega)]

theorem Accepts.known (accepts : Accepts state next update document) :
    (some document).filter (fun document => document.schemaVersion = runtimeSettingsSchemaVersion) =
      some document :=
  Option.filter_some_pos (decide_eq_true accepts.schema)

theorem Accepts.document_eq (accepts : Accepts state next update document) :
    next.runtimeSettingsDocument = (.persisted, document) := by
  have again := StoredSettings.validateAndNormalize_idem accepts.normal
  rw [accepts.next, runtimeSettingsDocument]
  simp only [accepts.known, Option.bind_some, again]
  rfl

theorem Accepts.revision_eq (accepts : Accepts state next update document) :
    next.revision.toNat = state.revision.toNat + 1 := by
  rw [SettingsState.revision, accepts.document_eq, ← accepts.revision]

theorem Accepts.restarts (accepts : Accepts state next update document) (config : AppConfig) :
    configWithPersistedRuntimeSettings next.stored config =
      (document.settings.applyToAppConfig config, document.settings) := by
  have again := StoredSettings.validateAndNormalize_idem accepts.normal
  rw [accepts.next, configWithPersistedRuntimeSettings]
  simp only [accepts.known, Option.bind_some, StoredSettings.validatedPersistedRuntimeSettings,
    again]
  rfl

structure Holds (state : SettingsState) (document : RuntimeSettingsDocument) : Prop where
  current : state.runtimeSettingsDocument = (.persisted, document)
  stored : state.stored = some document
  inEffect : state.runtimeSettings = document.settings
  restarts : ∀ config, configWithPersistedRuntimeSettings state.stored config =
    (document.settings.applyToAppConfig config, document.settings)

theorem Accepts.holds (accepts : Accepts state next update document) : next.Holds document where
  current := accepts.document_eq
  stored := by rw [accepts.next]
  inEffect := by rw [accepts.next]
  restarts := accepts.restarts

def Ends (state : SettingsState)
    (done : SettingsState × List (SettingsUpdate × RuntimeSettingsDocument)) : Prop :=
  match done.2.getLast? with
  | none => done.1 = state
  | some (_, document) => done.1.Holds document

theorem updateAll_ends (state : SettingsState) (updates : List SettingsUpdate) :
    state.Ends (state.updateAll updates) := by
  induction updates generalizing state with
  | nil => rfl
  | cons update rest ih =>
    cases updated : state.updateRuntimeSettings update with
    | error => simpa only [updateAll, updated] using ih state
    | ok accepted =>
      obtain ⟨next, document⟩ := accepted
      have behind := ih next
      rw [Ends] at behind
      simp only [updateAll, updated, Ends, List.getLast?_cons]
      cases last : (next.updateAll rest).2.getLast? with
      | none =>
        rw [last] at behind
        show (next.updateAll rest).1.Holds document
        rw [show (next.updateAll rest).1 = next from behind]
        exact (accepts_of_ok updated).holds
      | some accepted =>
        rw [last] at behind
        exact behind

theorem updateAll_revisions (state : SettingsState) (updates : List SettingsUpdate) :
    ((state.updateAll updates).2.map fun accepted => accepted.2.revision.toNat) =
      List.range' (state.revision.toNat + 1) (state.updateAll updates).2.length := by
  induction updates generalizing state with
  | nil => rfl
  | cons update rest ih =>
    cases updated : state.updateRuntimeSettings update with
    | error => simpa only [updateAll, updated] using ih state
    | ok accepted =>
      have accepts := accepts_of_ok updated
      simp only [updateAll, updated, List.map_cons, List.length_cons, List.range'_succ, ih,
        accepts.revision_eq, accepts.revision]

theorem updateAll_accepted {state : SettingsState} {updates : List SettingsUpdate}
    {accepted : SettingsUpdate × RuntimeSettingsDocument}
    (member : accepted ∈ (state.updateAll updates).2) :
    accepted.1 ∈ updates ∧
      accepted.1.settings.validateAndNormalize = .ok accepted.2.settings ∧
      accepted.2.revision.toNat = accepted.1.expectedRevision.toNat + 1 := by
  induction updates generalizing state with
  | nil => cases member
  | cons update rest ih =>
    cases updated : state.updateRuntimeSettings update with
    | error =>
      rw [updateAll, updated] at member
      exact (ih member).imp_left (.tail _)
    | ok answer =>
      rw [updateAll, updated] at member
      rcases List.mem_cons.1 member with rfl | behind
      · have accepts := accepts_of_ok updated
        exact ⟨.head _, accepts.normal, by rw [accepts.revision, accepts.expected]⟩
      · exact (ih behind).imp_left (.tail _)

end SettingsState

end ChatGateway
