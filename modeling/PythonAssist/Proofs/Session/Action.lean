import PythonAssist.Session

set_option autoImplicit false

namespace PythonAssist.Session

variable {W A B : Type}

theorem run_bind (action : Action W A) (next : A → Action W B) (session : Session W) :
    (action >>= next).run session =
      match action.run session with
      | (.ok value, after) => (next value).run after
      | (.error e, after) => (.error e, after) := by
  unfold ExceptT.run
  simp only [bind, ExceptT.bind, ExceptT.mk, StateT.bind, ExceptT.bindCont]
  rcases action session with ⟨value | value, after⟩ <;> rfl

theorem run_get (next : Session W → Action W A) (session : Session W) :
    (get >>= next).run session = (next session).run session := rfl

theorem run_set (after : Session W) (next : PUnit → Action W A) (session : Session W) :
    (set after >>= next).run session = (next ()).run after := rfl

def Ensures (action : Action W A) (session : Session W)
    (post : Except SessionError A → Session W → Prop) : Prop :=
  post (action.run session).1 (action.run session).2

namespace Ensures

variable {session : Session W} {action : Action W A}
  {post stronger : Except SessionError A → Session W → Prop}

theorem mono (ensured : Ensures action session stronger)
    (weaken : ∀ result after, stronger result after → post result after) :
    Ensures action session post :=
  weaken _ _ ensured

theorem both (first : Ensures action session post) (second : Ensures action session stronger) :
    Ensures action session fun result after => post result after ∧ stronger result after :=
  ⟨first, second⟩

theorem bind {next : A → Action W B} {last : Except SessionError B → Session W → Prop}
    (first : Ensures action session post)
    (failed : ∀ e after, post (.error e) after → last (.error e) after)
    (continued : ∀ value after, post (.ok value) after → Ensures (next value) after last) :
    Ensures (action >>= next) session last := by
  unfold Ensures at first ⊢
  rw [run_bind]
  rcases ran : action.run session with ⟨value | value, after⟩
  all_goals rw [ran] at first
  next => exact failed value after first
  next => exact continued value after first

end Ensures

section Primitive

variable {session after : Session W} {post : Except SessionError A → Session W → Prop}

theorem ensures_pure {value : A} (holds : post (.ok value) session) :
    Ensures (pure value) session post := holds

theorem ensures_fail {e : SessionError} (holds : post (.error e) session) :
    Ensures (fail e) session post := holds

theorem ensures_get {next : Session W → Action W A} (rest : Ensures (next session) session post) :
    Ensures (get >>= next) session post := rest

theorem ensures_set {next : PUnit → Action W A} (rest : Ensures (next ()) after post) :
    Ensures (set after >>= next) session post := rest

theorem ensures_modify {f : Session W → Session W} {next : PUnit → Action W A}
    (rest : Ensures (next ()) (f session) post) : Ensures (modify f >>= next) session post := rest

end Primitive

theorem run_recovered (action : Action W Unit) (session : Session W) :
    (tryCatch action fun _ => return).run session = (.ok (), (action.run session).2) := by
  unfold ExceptT.run
  simp only [tryCatch, tryCatchThe, MonadExceptOf.tryCatch, ExceptT.tryCatch, ExceptT.mk, bind,
    StateT.bind]
  rcases action session with ⟨value | value, after⟩ <;> rfl

theorem ensures_recovered {action : Action W Unit} {session : Session W}
    {post : Except SessionError Unit → Session W → Prop} (ensured : Ensures action session post) :
    Ensures (tryCatch action fun _ => return) session fun result after =>
      result = .ok () ∧ ∃ attempted, post attempted after := by
  unfold Ensures
  rw [run_recovered]
  exact ⟨rfl, _, ensured⟩

theorem ask_ensures (call : Answered W A) (session : Session W) :
    Ensures (ask call) session fun result after =>
      result = (call session.world).1.mapError .engine ∧
        after = { session with world := (call session.world).2 } := by
  apply ensures_get
  rcases call session.world with ⟨cause | value, world⟩
  · exact ensures_modify (ensures_fail ⟨rfl, rfl⟩)
  · exact ensures_modify (ensures_pure ⟨rfl, rfl⟩)

theorem started_ensures (session : Session W) :
    Ensures started session fun result after =>
      after = session ∧ ∀ environment, result = .ok environment ↔
        session.environment = some environment := by
  apply ensures_get
  cases found : session.environment with
  | none => exact ensures_fail ⟨rfl, by simp⟩
  | some environment => exact ensures_pure ⟨rfl, by simp⟩

def inlined (versionOf : Uri → Option Int) :
    Except EngineError Refactoring → Except SessionError (List DocumentEdit)
  | .error (.refactoring _) => .ok []
  | .error cause => .error (.engine cause)
  | .ok refactoring => (DocumentEdit.ofRefactoring versionOf refactoring).mapError .edits

theorem run_inlineEdits (engine : Engine W) (handle : DocumentHandle) (place : Place)
    (session : Session W) :
    (inlineEdits engine handle place).run session =
      (inlined session.documents.version?
          (engine.inlineAt handle.script place session.world).1,
        { session with world := (engine.inlineAt handle.script place session.world).2 }) := by
  unfold inlineEdits
  rw [run_get]
  rcases engine.inlineAt handle.script place session.world with ⟨cause | refactoring, world⟩
  next =>
    rw [run_set]
    cases cause <;> rfl
  next =>
    rw [run_set]
    dsimp only [inlined]
    cases DocumentEdit.ofRefactoring session.documents.version? refactoring <;> rfl

end PythonAssist.Session
