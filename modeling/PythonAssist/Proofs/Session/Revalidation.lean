import PythonAssist.Proofs.Schedule.Events
import PythonAssist.Proofs.Session.Confinement
import PythonAssist.Proofs.Session.Publications
import PythonAssist.Proofs.Session.StyleCache
import PythonAssist.Proofs.Settings.Update

set_option autoImplicit false

namespace PythonAssist

variable {W : Type}

theorem Table.isSome_lookup_iff {K V : Type} [DecidableEq K] {entries : List (K × V)} {key : K} :
    (lookup key entries).isSome = true ↔ key ∈ entries.map Prod.fst := by
  induction entries with
  | nil => simp [lookup]
  | cons entry rest ih =>
    unfold lookup
    by_cases same : entry.1 = key
    next => simp [same]
    next => simp [same, ih, Ne.symm same]

namespace DocumentStore

variable {store after : DocumentStore}

def Distinct (store : DocumentStore) : Prop := store.documents.keys.Nodup

theorem Distinct.openItem (distinct : store.Distinct) (item : DocumentItem) :
    (store.openItem item).Distinct :=
  Table.keys_insert_nodup distinct _ _

theorem Distinct.change (distinct : store.Distinct) {uri : Uri} {version : Int}
    {changes : List ContentChange} (changed : store.change uri version changes = some after) :
    after.Distinct := by
  unfold DocumentStore.change at changed
  split at changed <;> cases changed
  exact Table.keys_insert_nodup distinct _ _

theorem Distinct.save (distinct : store.Distinct) {uri : Uri} {text : Option String}
    (saved : store.save uri text = some after) : after.Distinct := by
  unfold DocumentStore.save at saved
  split at saved
  next => cases saved
  next =>
    split at saved <;> cases saved
    · exact distinct
    · exact Table.keys_insert_nodup distinct _ _

theorem Distinct.close (distinct : store.Distinct) (uri : Uri) : (store.close uri).Distinct :=
  Table.keys_erase_nodup distinct _

theorem mem_uris_iff {uri : Uri} : uri ∈ store.uris ↔ (store.find? uri).isSome = true := by
  rw [uris, List.mem_mergeSort]
  exact Table.isSome_lookup_iff.symm

theorem uris_pairwise (distinct : store.Distinct) :
    store.uris.Pairwise fun first second => first.text < second.text := by
  have sorted : store.uris.Pairwise fun first second =>
      decide (first.text ≤ second.text) = true := by
    apply List.pairwise_mergeSort
    · intro first second third before behind
      simp only [decide_eq_true_eq] at before behind ⊢
      exact String.le_trans before behind
    · intro first second
      simpa using String.le_total first.text second.text
  have apart : store.uris.Nodup := (List.mergeSort_perm _ _).nodup_iff.mpr distinct
  refine (sorted.and apart).imp fun {first second} pair => ?_
  obtain ⟨before, different⟩ := pair
  refine Std.lt_of_le_of_ne (of_decide_eq_true before) fun same => different ?_
  cases first
  cases second
  exact congrArg Uri.mk same

end DocumentStore

namespace Session

section Documents

variable {engine : Engine W} {session after : Session W}

theorem Delivers.distinct {message : EditorMessage} {ok : Bool}
    (delivers : Delivers engine session message ok after)
    (distinct : session.documents.Distinct) : after.documents.Distinct := by
  cases delivers with
  | answered _ _ _ moves => exact moves.keeps.documents ▸ distinct
  | opened item _ _ validates => exact validates.keeps.2 ▸ distinct.openItem item
  | changed _ _ _ _ _ _ changed moves => exact moves.keeps.documents ▸ distinct.change changed
  | closed uri => exact distinct.close uri
  | saved _ _ _ _ validates => exact validates.keeps.2 ▸ distinct
  | savedText _ _ _ _ _ saved validates => exact validates.keeps.2 ▸ distinct.save saved
  | configured _ _ _ _ _ _ validates => exact validates.keeps.2 ▸ distinct
  | _ => exact distinct

end Documents

structure Orderly (session : Session W) : Prop where
  coherent : Coherent session
  distinct : session.documents.Distinct
  notices : session.notices = []

theorem lifetime_orderly (launcher : Launcher W) (python : String) (settings : Settings)
    (world : W) (calls : List SessionCall) :
    Orderly ((create python settings world).lifetime launcher calls).session := by
  have initially : Orderly (create python settings world) := by
    refine ⟨fun uri handle _ cached => ?_, List.nodup_nil, rfl⟩
    cases cached
  apply lifetime_invariant Orderly _ _ _ initially calls
  next =>
    intro session host params orderly
    obtain ⟨result, after, ⟨documents, handles, -⟩, performed⟩ :=
      perform_ensures (connect_ensures { launcher, host } params session)
    simp only [handler, performed]
    exact ⟨orderly.coherent.frame handles documents, documents ▸ orderly.distinct, rfl⟩
  next =>
    intro session message ok after orderly delivers
    have coherent : Coherent after := delivers.tracks (remembers_nothing _) orderly.coherent
    exact ⟨coherent.frame rfl rfl, delivers.distinct orderly.distinct, rfl⟩
  next =>
    intro session uri generation pending run orderly
    exact ⟨orderly.coherent.frame rfl rfl, orderly.distinct, rfl⟩

inductive Revalidates (surroundings : Surroundings W) (settings : Settings)
    (revision : SettingsRevision) : List Uri → Session W → List ClientNotice → Session W → Prop
  | done (session : Session W) :
      Revalidates surroundings settings revision [] session [] session
  | failed (uri : Uri) (rest : List Uri) (session middle after : Session W)
      (notices : List ClientNotice) (e : SessionError) :
      session.settings = settings → session.revision = revision →
      (validate surroundings uri).run session = (.error e, middle) →
      middle.notices = session.notices →
      Revalidates surroundings settings revision rest middle notices after →
      Revalidates surroundings settings revision (uri :: rest) session notices after
  | succeeded (uri : Uri) (rest : List Uri) (session middle after : Session W)
      (notices : List ClientNotice) (found : List Diagnostic) (version : Int) :
      session.settings = settings → session.revision = revision →
      (validate surroundings uri).run session = (.ok (), middle) →
      middle.notices = session.notices ++ [.publishDiagnostics uri found version] →
      Revalidates surroundings settings revision rest middle notices after →
      Revalidates surroundings settings revision (uri :: rest) session
        (.publishDiagnostics uri found version :: notices) after

section Passes

variable (surroundings : Surroundings W) {session : Session W}

theorem afterPass_styling (uri : Uri) (session : Session W) :
    SameStyling session (afterPass surroundings uri session) :=
  Validates.styling (validate_ensures surroundings uri session)

theorem revalidates_afterPasses (uris : List Uri) (coherent : Coherent session) :
    ∃ notices, (afterPasses surroundings uris session).notices = session.notices ++ notices ∧
      SameStyling session (afterPasses surroundings uris session) ∧
      Revalidates surroundings session.settings session.revision uris session notices
        (afterPasses surroundings uris session) := by
  induction uris generalizing session with
  | nil => exact ⟨[], by simp [afterPasses], .refl _, .done session⟩
  | cons uri rest ih =>
    have publishes := validate_publishes surroundings uri coherent
    have styling := afterPass_styling surroundings uri session
    obtain ⟨notices, sent, kept, others⟩ := ih (afterPass_coherent surroundings uri coherent)
    rw [styling.settings, styling.revision] at others
    have whole : afterPasses surroundings (uri :: rest) session =
        afterPasses surroundings rest (afterPass surroundings uri session) := rfl
    rw [whole, sent]
    unfold Ensures at publishes
    have keeps := styling.trans kept
    unfold afterPass at others keeps ⊢
    generalize ran : (validate surroundings uri).run session = pair at publishes others keeps ⊢
    obtain ⟨result, middle⟩ := pair
    cases result with
    | error e =>
      cases publishes with
      | failed _ same _ =>
        refine ⟨notices, by rw [same], keeps, ?_⟩
        exact .failed uri rest session middle _ notices e rfl rfl ran same others
    | ok done =>
      have published : ∃ found version,
          middle.notices = session.notices ++ [.publishDiagnostics uri found version] := by
        cases publishes with
        | cancelled found version _ _ added _ => exact ⟨found, version, added⟩
        | began pending _ _ added _ => exact ⟨_, _, added⟩
      obtain ⟨found, version, added⟩ := published
      refine ⟨.publishDiagnostics uri found version :: notices, by simp [added], keeps, ?_⟩
      exact .succeeded uri rest session middle _ notices found version rfl rfl ran added others

end Passes

def settingsUpdate (payload : Json) : List (String × Json) :=
  match payload.get? Settings.settingsNamespace with
  | some (.object update) => update
  | _ => []

section Configuration

variable (surroundings : Surroundings W)

theorem run_applySettings (update : List (String × Json)) (session : Session W) :
    (applySettings surroundings update).run session =
      match session.settings.apply update with
      | .error cause => (.error (.settings cause), session)
      | .ok (settings, change) =>
        (.ok (), afterPasses surroundings
          (if change.needsRevalidation then session.documents.uris else [])
          { session with settings, revision := session.revision.bump change }) := by
  rw [applySettings, run_get]
  rcases session.settings.apply update with cause | ⟨settings, change⟩
  next => rfl
  next =>
    dsimp only
    rw [run_set]
    split
    next => rw [run_validateEach]
    next => rfl

theorem run_didChangeConfiguration (payload : Json) (session : Session W) :
    (didChangeConfiguration surroundings payload).run session =
      (applySettings surroundings (settingsUpdate payload)).run session := by
  have nothing : _ = (applySettings surroundings []).run session :=
    (run_applySettings surroundings [] session).symm
  unfold didChangeConfiguration settingsUpdate
  cases payload.get? Settings.settingsNamespace with
  | none => exact nothing
  | some value =>
    cases value with
    | object update => rfl
    | _ => exact nothing

structure TurnedDown (update : List (String × Json)) (session : Session W)
    (outcome : Outcome (Session W) Unit) : Prop where
  wrong : ∃ key cause, SettingKey.Wrong key update ∧
    outcome.result = .error (SettingsError.message { key := key.name, cause })
  notices : outcome.notices = []
  state : outcome.state = session

structure TakenOver (surroundings : Surroundings W) (update : List (String × Json))
    (session : Session W) (outcome : Outcome (Session W) Unit) : Prop where
  right : ∀ key, ¬ SettingKey.Wrong key update
  result : outcome.result = .ok ()
  taken : ∀ key value, SettingKey.value? key update = some value →
    key.Holds outcome.state.settings value
  kept : ∀ key, SettingKey.value? key update = none →
    key.Same outcome.state.settings session.settings
  style : outcome.state.revision.style = session.revision.style +
    if (SettingKey.value? .styleConfig update).isSome then 1 else 0
  typeCheck : outcome.state.revision.typeCheck = session.revision.typeCheck +
    if (SettingKey.value? .typeCheck update).isSome then 1 else 0
  revalidates : ∃ uris after,
    uris.Pairwise (fun first second : Uri => first.text < second.text) ∧
    (∀ uri, uri ∈ uris ↔ (session.documents.find? uri).isSome = true ∧
      ∃ key, key ≠ .helpOnHover ∧ (SettingKey.value? key update).isSome = true) ∧
    Revalidates surroundings outcome.state.settings outcome.state.revision uris
      { session with
        settings := outcome.state.settings
        revision := outcome.state.revision } outcome.notices after ∧
    outcome.state = { after with notices := [] }

theorem mem_revalidated_iff {update : List (String × Json)} {session : Session W}
    {settings : Settings} {change : SettingsChange}
    (updates : Settings.Updates update session.settings settings change) {uri : Uri} :
    uri ∈ (if change.needsRevalidation then session.documents.uris else []) ↔
      (session.documents.find? uri).isSome = true ∧
        ∃ key, key ≠ .helpOnHover ∧ (SettingKey.value? key update).isSome = true := by
  have needed := change.needsRevalidation_iff
  simp only [updates.marked] at needed
  rw [← needed, ← DocumentStore.mem_uris_iff]
  split <;> simp_all

theorem TakenOver.of_apply {update : List (String × Json)} {session : Session W}
    (orderly : Orderly session) {settings : Settings} {change : SettingsChange}
    (updates : Settings.Updates update session.settings settings change)
    (applied : session.settings.apply update = .ok (settings, change)) :
    TakenOver surroundings update session
      (perform (applySettings surroundings update) session) := by
  let uris := if change.needsRevalidation then session.documents.uris else []
  let changed := { session with settings, revision := session.revision.bump change }
  let after := afterPasses surroundings uris changed
  have coherent : Coherent changed := orderly.coherent.frame rfl rfl
  have performed : perform (applySettings surroundings update) session =
      { result := .ok (), notices := after.notices, state := { after with notices := [] } } := by
    rw [perform, run_applySettings, applied]
    rfl
  obtain ⟨notices, sent, styling, revalidates⟩ :=
    revalidates_afterPasses surroundings uris coherent
  have added : after.notices = notices := by
    rw [sent, show changed.notices = [] from orderly.notices, List.nil_append]
  have newSettings : after.settings = settings := styling.settings
  have newRevision : after.revision = session.revision.bump change := styling.revision
  obtain ⟨style, typeCheck⟩ := updates.revision session.revision
  rw [performed]
  refine ⟨updates.right, rfl, ?_, ?_, ?_, ?_, uris, after, ?_, fun uri => ?_, ?_, rfl⟩
  · exact newSettings ▸ updates.taken
  · exact newSettings ▸ updates.kept
  · exact newRevision ▸ style
  · exact newRevision ▸ typeCheck
  · show (if change.needsRevalidation = true then session.documents.uris else []).Pairwise _
    split
    · exact DocumentStore.uris_pairwise orderly.distinct
    · exact List.Pairwise.nil
  · exact mem_revalidated_iff updates
  · show Revalidates surroundings after.settings after.revision uris
      { session with settings := after.settings, revision := after.revision } after.notices after
    rw [newSettings, newRevision, added]
    exact revalidates

theorem receive_configuration {session : Session W} (orderly : Orderly session)
    (payload : Json) :
    let outcome := (handler surroundings).receive (.didChangeConfiguration payload) session
    TurnedDown (settingsUpdate payload) session outcome ∨
      TakenOver surroundings (settingsUpdate payload) session outcome := by
  intro outcome
  have ran : outcome = perform (applySettings surroundings (settingsUpdate payload)) session := by
    show perform (didChangeConfiguration surroundings payload) session = _
    rw [perform, run_didChangeConfiguration]
    rfl
  have spec := session.settings.apply_spec (settingsUpdate payload)
  cases applied : session.settings.apply (settingsUpdate payload) with
  | error e =>
    rw [applied] at spec
    obtain ⟨key, named, wrong⟩ := spec
    rw [ran, perform, run_applySettings, applied]
    refine .inl ⟨⟨key, e.cause, wrong, ?_⟩, orderly.notices, ?_⟩
    · rw [← named]
      rfl
    · show { session with notices := [] } = session
      rw [← orderly.notices]
  | ok pair =>
    rw [applied] at spec
    rw [ran]
    exact .inr (.of_apply surroundings orderly spec applied)

end Configuration

end Session

open Session

-- A change of the settings is turned down as a whole and changes nothing, or it is taken over as a
-- whole; then every open document is validated once if a key is set that shows in diagnostics.
theorem configuration_change_is_atomic_and_complete (launcher : Launcher W) (python : String)
    (settings : Settings) (world : W) (calls : List SessionCall) (host : Host) (payload : Json) :
    let session := ((create python settings world).lifetime launcher calls).session
    let outcome := (handler { launcher, host }).receive (.didChangeConfiguration payload) session
    TurnedDown (settingsUpdate payload) session outcome ∨
      TakenOver { launcher, host } (settingsUpdate payload) session outcome :=
  receive_configuration _ (lifetime_orderly launcher python settings world calls) payload

end PythonAssist
