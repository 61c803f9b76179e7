import PythonAssist.Proofs.Session.Delivery

set_option autoImplicit false

namespace PythonAssist

variable {W : Type}

inductive SessionCall where
  | connect (host : Host) (params : InitializeParams)
  | event (event : SessionEvent)

namespace Situation

def connect (launcher : Launcher W) (situation : Situation W) (host : Host)
    (params : InitializeParams) : Situation W :=
  { situation with
    session := ((Session.handler { launcher, host }).connect params situation.session).state }

def meet (launcher : Launcher W) (situation : Situation W) : SessionCall → Situation W
  | .connect host params => situation.connect launcher host params
  | .event event =>
    if situation.session.environment.isSome then (situation.advance launcher event).state
    else situation

end Situation

namespace Session

def lifetime (launcher : Launcher W) (session : Session W) (calls : List SessionCall) :
    Situation W :=
  calls.foldl (Situation.meet launcher) { session, flights := [] }

theorem lifetime_invariant {launcher : Launcher W} (invariant : Session W → Prop)
    (connected : ∀ session host params, invariant session →
      invariant ((handler { launcher, host }).connect params session).state)
    (delivered : ∀ session message ok after, invariant session →
      Delivers launcher.engine session message ok after → invariant { after with notices := [] })
    (ended : ∀ session uri generation pending run, invariant session →
      invariant { endCheck session uri generation pending run with notices := [] })
    {session : Session W} (initially : invariant session) (calls : List SessionCall) :
    invariant (session.lifetime launcher calls).session := by
  unfold lifetime
  generalize begun : ({ session, flights := [] } : Situation W) = situation
  replace initially : invariant situation.session := begun ▸ initially
  clear begun
  induction calls generalizing situation with
  | nil => exact initially
  | cons call rest ih =>
    apply ih
    cases call with
    | connect host params => exact connected _ host params initially
    | event event =>
      unfold Situation.meet
      dsimp only
      split
      next started =>
        cases event with
        | message host message =>
          obtain ⟨after, delivers, -, state⟩ :=
            deliver_delivers { launcher, host } message situation.session started
          simp only [Situation.advance, state]
          exact delivered _ _ _ _ initially delivers
        | ended flight run =>
          unfold Situation.advance
          dsimp only
          split
          · exact ended _ _ _ _ _ initially
          · exact initially
      next => exact initially

end Session

end PythonAssist
