import Mathlib.Logic.Relation
import PythonAssist.Proofs.Engine.Calls
import PythonAssist.Proofs.Session.Action

set_option autoImplicit false

namespace PythonAssist

variable {W A B : Type}

namespace Session

def dropHandle (engine : Engine W) (uri : Uri) (session : Session W) : Session W :=
  { session with
    handles := (session.handles.evict engine uri session.world).1
    world := (session.handles.evict engine uri session.world).2 }

inductive Move (engine : Engine W) (uri : Uri) : Session W → Session W → Prop
  | evicted (session : Session W) : Move engine uri session (session.dropHandle engine uri)
  | opened (session : Session W) (document : Document) (script : ScriptId) (world : W) :
      session.handles.find? uri = none → session.documents.find? uri = some document →
      engine.openScript document.text document.path session.world = (.ok script, world) →
      Move engine uri session
        { session with
          handles :=
            { handles :=
                session.handles.handles.insert uri (.ofDocument document uri script) }
          world }
  | unopened (session : Session W) (document : Document) (cause : EngineError) (world : W) :
      engine.openScript document.text document.path session.world = (.error cause, world) →
      Move engine uri session { session with world }
  | asked (session : Session W) (handle : DocumentHandle) (world : W) :
      session.handles.find? uri = some handle → engine.Asks handle.script session.world world →
      Move engine uri session { session with world }
  | consulted (session : Session W) (world : W) :
      engine.Consults session.world world → Move engine uri session { session with world }
  | derived (session : Session W) (styleOptions : FolderCache StyleOptions)
      (typeConfigs : FolderCache String) :
      Move engine uri session { session with styleOptions, typeConfigs }

def Moves (engine : Engine W) (uri : Uri) : Session W → Session W → Prop :=
  Relation.ReflTransGen (Move engine uri)

section Handles

variable {engine : Engine W} {uri : Uri}

theorem Moves.refl (session : Session W) : Moves engine uri session session :=
  Relation.ReflTransGen.refl

theorem Move.moves {session after : Session W} (move : Move engine uri session after) :
    Moves engine uri session after :=
  Relation.ReflTransGen.single move

theorem Moves.trans {session middle after : Session W} (first : Moves engine uri session middle)
    (second : Moves engine uri middle after) : Moves engine uri session after :=
  Relation.ReflTransGen.trans first second

theorem find?_evict (engine : Engine W) (cache : HandleCache) (uri key : Uri) (world : W) :
    (cache.evict engine uri world).1.find? key = if key = uri then none else cache.find? key := by
  unfold HandleCache.evict
  split
  next missing =>
    split
    next same => rw [same, missing]
    next => rfl
  next => exact Table.find?_erase cache.handles key uri

theorem build_moves (engine : Engine W) (uri : Uri) (session : Session W) :
    let built := session.handles.build engine session.documents uri session.world
    Moves engine uri (session.dropHandle engine uri)
        { session with handles := built.2.1, world := built.2.2 } ∧
      ∀ handle, built.1 = .ok handle → built.2.1.find? uri = some handle := by
  have evicted : Moves engine uri _ _ := .refl (session.dropHandle engine uri)
  have gone := find?_evict engine session.handles uri uri session.world
  rw [if_pos rfl] at gone
  unfold HandleCache.build
  unfold dropHandle at evicted ⊢
  generalize session.handles.evict engine uri session.world = removed at evicted gone ⊢
  cases found : session.documents.find? uri with
  | none => exact ⟨evicted, by simp⟩
  | some document =>
    rcases opens : engine.openScript document.text document.path removed.2 with
      ⟨cause | script, world⟩
    next =>
      simp only [opens]
      exact ⟨evicted.tail (.unopened _ document cause world opens), by simp⟩
    next =>
      simp only [opens]
      refine ⟨evicted.tail (.opened _ document script world gone found opens), ?_⟩
      intro handle same
      cases same
      simp [HandleCache.find?, Table.find?_insert]

theorem obtain_moves (engine : Engine W) (uri : Uri) (session : Session W) :
    let obtained := session.handles.obtain engine session.documents uri session.world
    Moves engine uri session { session with handles := obtained.2.1, world := obtained.2.2 } ∧
      ∀ handle, obtained.1 = .ok handle → obtained.2.1.find? uri = some handle := by
  unfold HandleCache.obtain
  cases cached : session.handles.find? uri with
  | none =>
    have built := build_moves engine uri session
    exact ⟨(Move.evicted session).moves.trans built.1, built.2⟩
  | some handle => exact ⟨.refl session, by simp [cached]⟩

theorem keepHandle_ensures {session : Session W}
    {result : Except HandleError DocumentHandle × HandleCache × W}
    {post : Except SessionError DocumentHandle → Session W → Prop}
    (failed : ∀ cause, post (.error cause)
      { session with handles := result.2.1, world := result.2.2 })
    (kept : ∀ handle, result.1 = .ok handle → post (.ok handle)
      { session with handles := result.2.1, world := result.2.2 }) :
    Ensures (keepHandle result) session post := by
  apply ensures_modify
  obtain ⟨cause | handle, cache, world⟩ := result
  · exact ensures_fail (failed _)
  · exact ensures_pure (kept handle rfl)

theorem handleFor_ensures (session : Session W) :
    Ensures (handleFor engine uri) session fun result after =>
      Moves engine uri session after ∧
        ∀ handle, result = .ok handle → after.handles.find? uri = some handle := by
  apply (started_ensures session).bind
  next =>
    rintro e after ⟨rfl, -⟩
    exact ⟨.refl _, by simp⟩
  next =>
    rintro environment after ⟨rfl, -⟩
    have obtained := obtain_moves engine uri after
    apply ensures_get
    apply keepHandle_ensures
    · exact fun cause => ⟨obtained.1, by simp⟩
    · rintro handle same
      refine ⟨obtained.1, ?_⟩
      rintro _ ⟨⟩
      exact obtained.2 handle same

theorem rebuildHandle_ensures (session : Session W)
    (connected : session.environment.isSome = true) :
    Ensures (rebuildHandle engine uri) session fun _ after =>
      Moves engine uri (session.dropHandle engine uri) after := by
  apply (started_ensures session).bind
  next =>
    rintro e after ⟨rfl, found⟩
    obtain ⟨environment, present⟩ := Option.isSome_iff_exists.mp connected
    exact absurd ((found environment).mpr present) (by simp)
  next =>
    rintro environment after ⟨rfl, -⟩
    have built := build_moves engine uri after
    apply ensures_get
    exact keepHandle_ensures (fun _ => built.1) fun _ _ => built.1

end Handles

section Questions

variable {engine : Engine W} {uri : Uri}

theorem asked_ensures {session : Session W} {handle : DocumentHandle} {call : Answered W A}
    {next : A → Action W B} (cached : session.handles.find? uri = some handle)
    (asks : ∀ world, engine.Asks handle.script world (call world).2)
    (rest : ∀ value after, after.handles = session.handles →
      Ensures (next value) after fun _ last => Moves engine uri after last) :
    Ensures (ask call >>= next) session fun _ last => Moves engine uri session last := by
  have moves := (Move.asked session handle _ cached (asks session.world)).moves
  apply (ask_ensures call session).bind
  next =>
    rintro e after ⟨-, rfl⟩
    exact moves
  next =>
    rintro value after ⟨-, rfl⟩
    have further := rest value { session with world := (call session.world).2 } rfl
    exact further.mono fun _ _ others => moves.trans others

theorem handled_ensures {session : Session W} {next : DocumentHandle → Action W A}
    (rest : ∀ handle after, after.handles.find? uri = some handle →
      Ensures (next handle) after fun _ last => Moves engine uri after last) :
    Ensures (handleFor engine uri >>= next) session fun _ last =>
      Moves engine uri session last := by
  apply (handleFor_ensures session).bind
  next => exact fun e after found => found.1
  next =>
    intro handle after found
    exact (rest handle after (found.2 handle rfl)).mono fun _ _ further => found.1.trans further

theorem completion_ensures (place : DocumentPlace) (session : Session W) :
    Ensures (completion engine place) session fun _ after =>
      Moves engine place.uri session after := by
  apply ensures_get
  split
  next => exact ensures_fail (.refl _)
  next =>
    apply handled_ensures
    intro handle after cached
    apply asked_ensures cached (fun world => .complete _ world)
    exact fun _ _ _ => ensures_pure (.refl _)

theorem hover_ensures (place : DocumentPlace) (session : Session W) :
    Ensures (hover engine place) session fun _ after => Moves engine place.uri session after := by
  apply handled_ensures
  intro handle after cached
  apply ensures_get
  apply asked_ensures cached
  · intro world
    split
    · exact .help _ world
    · exact .infer _ world
  · exact fun _ _ _ => ensures_pure (.refl _)

theorem signatureHelp_ensures (place : DocumentPlace) (session : Session W) :
    Ensures (signatureHelp engine place) session fun _ after =>
      Moves engine place.uri session after := by
  apply handled_ensures
  intro handle after cached
  apply asked_ensures cached (fun world => .signatures _ world)
  exact fun _ _ _ => ensures_pure (.refl _)

theorem definition_ensures (place : DocumentPlace) (session : Session W) :
    Ensures (definition engine place) session fun _ after =>
      Moves engine place.uri session after := by
  apply handled_ensures
  intro handle after cached
  apply asked_ensures cached (fun world => .goto _ world)
  exact fun _ _ _ => ensures_pure (.refl _)

theorem references_ensures (place : DocumentPlace) (session : Session W) :
    Ensures (references engine place) session fun _ after =>
      Moves engine place.uri session after := by
  apply handled_ensures
  intro handle after cached
  apply asked_ensures cached (fun world => .references _ world)
  exact fun _ _ _ => ensures_pure (.refl _)

theorem documentSymbol_ensures (uri : Uri) (session : Session W) :
    Ensures (documentSymbol engine uri) session fun _ after => Moves engine uri session after := by
  apply handled_ensures
  intro handle after cached
  apply asked_ensures cached (fun world => .names true world)
  intro names last _
  apply ensures_get
  split
  · exact ensures_pure (.refl _)
  · exact ensures_fail (.refl _)

theorem inlineEdits_ensures {handle : DocumentHandle} (place : Place) {session : Session W}
    (cached : session.handles.find? uri = some handle) :
    Ensures (inlineEdits engine handle place) session fun _ after =>
      Moves engine uri session after := by
  have moves : Moves engine uri session _ :=
    (Move.asked session handle _ cached (.inlineAt place session.world)).moves
  apply ensures_get
  rcases called : engine.inlineAt handle.script place session.world with
    ⟨cause | refactoring, world⟩
  all_goals
    rw [called] at moves
    apply ensures_set
  next =>
    cases cause
    case refactoring => exact ensures_pure moves
    all_goals exact ensures_fail moves
  next =>
    dsimp only
    split
    · exact ensures_pure moves
    · exact ensures_fail moves

theorem codeAction_ensures (uri : Uri) (range : Range) (session : Session W) :
    Ensures (codeAction engine uri range) session fun _ after =>
      Moves engine uri session after := by
  unfold codeAction
  split
  next => exact ensures_pure (.refl _)
  next =>
    apply handled_ensures
    intro handle after cached
    apply (inlineEdits_ensures range.start.toPlace cached).bind
    · exact fun _ _ moves => moves
    · intro edits last moves
      cases edits <;> exact ensures_pure moves

end Questions

end Session

end PythonAssist
