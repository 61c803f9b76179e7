import PythonAssist.Proofs.Session.Action

set_option autoImplicit false

namespace PythonAssist.Session

variable {W A B : Type}

def unstyled (session : Session W) : Session W := { session with styleOptions := .empty }

structure SameStyling (session after : Session W) : Prop where
  settings : after.settings = session.settings
  revision : after.revision = session.revision
  workspace : after.workspace = session.workspace

theorem SameStyling.refl (session : Session W) : SameStyling session session := ⟨rfl, rfl, rfl⟩

theorem SameStyling.symm {session after : Session W} (styling : SameStyling session after) :
    SameStyling after session :=
  ⟨styling.settings.symm, styling.revision.symm, styling.workspace.symm⟩

theorem SameStyling.trans {session middle after : Session W} (first : SameStyling session middle)
    (second : SameStyling middle after) : SameStyling session after :=
  ⟨second.settings.trans first.settings, second.revision.trans first.revision,
    second.workspace.trans first.workspace⟩

def Unconcerned (action : Action W A) : Prop :=
  ∀ session, Ensures action session fun result after =>
    SameStyling session after ∧ after.styleOptions = session.styleOptions ∧
      action.run session.unstyled = (result, after.unstyled)

namespace Unconcerned

theorem pure (value : A) : Unconcerned (pure value : Action W A) :=
  fun session => ensures_pure ⟨.refl session, rfl, rfl⟩

theorem fail (e : SessionError) : Unconcerned (fail e : Action W A) :=
  fun session => ensures_fail ⟨.refl session, rfl, rfl⟩

theorem bind {action : Action W A} {next : A → Action W B} (first : Unconcerned action)
    (rest : ∀ value, Unconcerned (next value)) : Unconcerned (action >>= next) := by
  intro session
  apply (first session).bind
  next =>
    rintro e after ⟨styling, options, ran⟩
    exact ⟨styling, options, by rw [run_bind, ran]⟩
  next =>
    rintro value after ⟨styling, options, ran⟩
    apply (rest value after).mono
    rintro result last ⟨later, kept, continued⟩
    refine ⟨styling.trans later, kept.trans options, ?_⟩
    rw [run_bind, ran]
    exact continued

theorem get {next : Session W → Action W A}
    (blind : ∀ session, next session.unstyled = next session)
    (rest : ∀ session, Unconcerned (next session)) : Unconcerned (get >>= next) := by
  intro session
  apply ensures_get
  apply (rest session session).mono
  rintro result after ⟨styling, options, ran⟩
  refine ⟨styling, options, ?_⟩
  rw [← ran, ← blind session]
  rfl

theorem modify {f : Session W → Session W} (styling : ∀ session, SameStyling session (f session))
    (options : ∀ session, (f session).styleOptions = session.styleOptions)
    (blind : ∀ session, f session.unstyled = (f session).unstyled) :
    Unconcerned (modify f : Action W PUnit) := by
  intro session
  have ran : ((.ok ⟨⟩, f session.unstyled) : Except SessionError PUnit × Session W) =
      (.ok ⟨⟩, (f session).unstyled) := by rw [blind session]
  exact ⟨styling session, options session, ran⟩

end Unconcerned

section Steps

variable {engine : Engine W}

theorem started_unconcerned : Unconcerned (started : Action W Environment) := by
  apply Unconcerned.get fun _ => rfl
  intro session
  split
  · exact .pure _
  · exact .fail _

theorem ask_unconcerned (call : Answered W A) : Unconcerned (ask call) := by
  apply Unconcerned.get fun _ => rfl
  intro session
  dsimp only
  apply Unconcerned.bind
  · exact .modify (fun _ => ⟨rfl, rfl, rfl⟩) (fun _ => rfl) fun _ => rfl
  · intro _
    split
    · exact .pure _
    · exact .fail _

theorem setHandles_unconcerned (result : HandleCache × W) :
    Unconcerned (setHandles result : Action W Unit) :=
  .modify (fun _ => ⟨rfl, rfl, rfl⟩) (fun _ => rfl) fun _ => rfl

theorem evict_unconcerned (uri : Uri) : Unconcerned (evict engine uri) :=
  .get (fun _ => rfl) fun _ => setHandles_unconcerned _

theorem keepHandle_unconcerned (result : Except HandleError DocumentHandle × HandleCache × W) :
    Unconcerned (keepHandle result) := by
  apply (setHandles_unconcerned _).bind
  intro _
  split
  · exact .pure _
  · exact .fail _

theorem handleFor_unconcerned (uri : Uri) : Unconcerned (handleFor engine uri) :=
  started_unconcerned.bind fun _ => .get (fun _ => rfl) fun _ => keepHandle_unconcerned _

theorem rebuildHandle_unconcerned (uri : Uri) : Unconcerned (rebuildHandle engine uri) :=
  started_unconcerned.bind fun _ => .get (fun _ => rfl) fun _ => keepHandle_unconcerned _

theorem openDocument_unconcerned (uri : Uri) :
    Unconcerned (openDocument uri : Action W Document) := by
  apply Unconcerned.get fun _ => rfl
  intro session
  split
  · exact .pure _
  · exact .fail _

theorem storeDocuments_unconcerned (uri : Uri) (documents : Option DocumentStore) :
    Unconcerned (storeDocuments uri documents : Action W Unit) := by
  unfold storeDocuments
  split
  · exact .modify (fun _ => ⟨rfl, rfl, rfl⟩) (fun _ => rfl) fun _ => rfl
  · exact .fail _

theorem changeChecks_unconcerned (f : Schedule PendingCheck → Schedule PendingCheck) :
    Unconcerned (changeChecks f : Action W Unit) :=
  .modify (fun _ => ⟨rfl, rfl, rfl⟩) (fun _ => rfl) fun _ => rfl

theorem examine_unconcerned (handle : DocumentHandle) (path : Option Path)
    (options : StyleOptions) : Unconcerned (examine engine handle path options) := by
  apply (ask_unconcerned _).bind
  intro errors
  split
  · exact .pure _
  · apply Unconcerned.get fun _ => rfl
    intro session
    apply (ask_unconcerned _).bind
    intro reports
    exact (ask_unconcerned _).bind fun findings => .pure _

theorem typeConfigFor_unconcerned (host : Host) (folder : Option Path) :
    Unconcerned (typeConfigFor host folder : Action W String) :=
  fun _ => ⟨⟨rfl, rfl, rfl⟩, rfl, rfl⟩

theorem beginCheck_unconcerned (host : Host) (environment : Environment) (handle : DocumentHandle)
    (file : Path) (folder : Option Path) (base : List Diagnostic) :
    Unconcerned (beginCheck host environment handle file folder base : Action W Unit) :=
  (typeConfigFor_unconcerned host folder).bind fun _ =>
    .get (fun _ => rfl) fun _ => changeChecks_unconcerned _

theorem conclude_unconcerned (host : Host) (environment : Environment) (handle : DocumentHandle)
    (uri : Uri) (path : Option Path) (folder : Option Path) (validation : Validation) :
    Unconcerned (do
      publish handle validation.diagnostics
      match path, (← get).settings.typeCheck && validation.isSound with
      | some file, true =>
        beginCheck host environment handle file folder validation.diagnostics
      | _, _ => changeChecks fun checks => checks.cancel uri : Action W Unit) := by
  apply Unconcerned.bind
  · exact .modify (fun _ => ⟨rfl, rfl, rfl⟩) (fun _ => rfl) fun _ => rfl
  · intro _
    apply Unconcerned.get fun _ => rfl
    intro session
    split
    · exact beginCheck_unconcerned _ _ _ _ _ _
    · exact changeChecks_unconcerned _

theorem shutdown_unconcerned (surroundings : Surroundings W) :
    Unconcerned (shutdown surroundings) :=
  (changeChecks_unconcerned _).bind fun _ => .get (fun _ => rfl) fun _ => setHandles_unconcerned _

end Steps

section Queries

variable {engine : Engine W}

theorem completion_unconcerned (place : DocumentPlace) :
    Unconcerned (completion engine place) := by
  apply Unconcerned.get fun _ => rfl
  intro session
  split
  · exact .fail _
  · apply (handleFor_unconcerned _).bind
    intro handle
    exact (ask_unconcerned _).bind fun _ => .pure _

theorem hover_unconcerned (place : DocumentPlace) : Unconcerned (hover engine place) := by
  apply (handleFor_unconcerned _).bind
  intro handle
  apply Unconcerned.get fun _ => rfl
  intro session
  exact (ask_unconcerned _).bind fun _ => .pure _

theorem documentSymbol_unconcerned (uri : Uri) : Unconcerned (documentSymbol engine uri) := by
  apply (handleFor_unconcerned _).bind
  intro handle
  apply (ask_unconcerned _).bind
  intro names
  apply Unconcerned.get fun _ => rfl
  intro session
  split
  · exact .pure _
  · exact .fail _

theorem inlineEdits_unconcerned (handle : DocumentHandle) (place : Place) :
    Unconcerned (inlineEdits engine handle place) := by
  intro session
  unfold Ensures
  rw [run_inlineEdits, run_inlineEdits]
  exact ⟨⟨rfl, rfl, rfl⟩, rfl, rfl⟩

theorem codeAction_unconcerned (uri : Uri) (range : Range) :
    Unconcerned (codeAction engine uri range) := by
  unfold codeAction
  split
  · exact .pure _
  · apply (handleFor_unconcerned _).bind
    intro handle
    apply (inlineEdits_unconcerned _ _).bind
    intro edits
    split <;> exact .pure _

theorem answer_unconcerned (query : Query) : Unconcerned (answer engine query) := by
  cases query with
  | completion place => exact completion_unconcerned place
  | hover place => exact hover_unconcerned place
  | documentSymbol uri => exact documentSymbol_unconcerned uri
  | codeAction uri range => exact codeAction_unconcerned uri range
  | _ =>
    exact (handleFor_unconcerned _).bind fun _ => (ask_unconcerned _).bind fun _ => .pure _

end Queries

end PythonAssist.Session
