import PythonAssist.Proofs.Session.Interleaving

set_option autoImplicit false

namespace PythonAssist

variable {W : Type}

open Session

inductive ServerTurn where
  | body (host : Host) (text : String)
  | proceed (host : Host)
  | ended (flight : Flight) (run : CheckerRun)

namespace Server

section Turns

variable (launcher : Launcher W)

-- Bodies come one at a time. The passes that a body makes due go on by themselves, and so do the
-- type checks, which outlive the connection.
def turn (server : Server (Moment W)) : ServerTurn → Server (Moment W)
  | .body host text =>
    if !server.exited && server.state.stage.isIdle then
      handle (Moment.handler { launcher, host }) text server
    else server
  | .proceed host => server.absorb (server.state.proceed { launcher, host })
  | .ended flight run => server.absorb (server.state.finish flight run)

def life (server : Server (Moment W)) (turns : List ServerTurn) : Server (Moment W) :=
  turns.foldl (turn launcher) server

theorem turn_body {server : Server (Moment W)} (goesOn : server.exited = false)
    (idle : server.state.stage = .due []) (host : Host) (text : String) :
    server.turn launcher (.body host text) =
      handle (Moment.handler { launcher, host }) text server := by
  have due : (!server.exited && server.state.stage.isIdle) = true := by
    rw [goesOn, idle]
    rfl
  exact if_pos due

end Turns

def quieted (server : Server (Moment W)) : Server (Session W) :=
  { server with state := server.state.quiet }

section Undisturbed

variable (surroundings : Surroundings W)

theorem connect_quieted (params : Json) (server : Server (Moment W)) :
    let taken := connect (Moment.handler surroundings) params server
    let whole := connect (Session.handler surroundings) params server.quieted
    taken.1 = whole.1 ∧ taken.2.quieted = whole.2 ∧ taken.2.state.stage = server.state.stage := by
  unfold connect
  cases InitializeParams.decode params with
  | error cause => exact ⟨rfl, rfl, rfl⟩
  | ok params =>
    have same : ((Moment.handler surroundings).connect params server.state).result =
        ((Session.handler surroundings).connect params server.quieted.state).result := rfl
    simp only [same]
    split <;> exact ⟨rfl, rfl, rfl⟩

theorem query_quieted (method : String) (params : Json) (server : Server (Moment W)) :
    let taken := query (Moment.handler surroundings) method params server
    let whole := query (Session.handler surroundings) method params server.quieted
    taken.1 = whole.1 ∧ taken.2.quieted = whole.2 ∧ taken.2.state.stage = server.state.stage := by
  unfold query
  cases Query.decoder? method with
  | none => exact ⟨rfl, rfl, rfl⟩
  | some decode =>
    dsimp only
    cases decode params <;> exact ⟨rfl, rfl, rfl⟩

theorem reply_quieted (request : RequestMessage) (server : Server (Moment W)) :
    let taken := reply (Moment.handler surroundings) request server
    let whole := reply (Session.handler surroundings) request server.quieted
    taken.1 = whole.1 ∧ taken.2.quieted = whole.2 ∧ taken.2.state.stage = server.state.stage := by
  have same : server.quieted.lifecycle = server.lifecycle := rfl
  unfold reply
  rw [same]
  cases server.lifecycle with
  | uninitialized =>
    dsimp only
    split
    · exact connect_quieted surroundings _ server
    · exact ⟨rfl, rfl, rfl⟩
  | shutdownRequested =>
    dsimp only
    split <;> exact ⟨rfl, rfl, rfl⟩
  | running =>
    dsimp only
    repeat' split
    · exact ⟨rfl, rfl, rfl⟩
    · exact ⟨rfl, rfl, rfl⟩
    · exact query_quieted surroundings _ _ server

theorem life_proceed (count : Nat) (server : Server (Moment W)) :
    let passed := Moment.proceedBy surroundings count server.state
    server.life surroundings.launcher (List.replicate count (.proceed surroundings.host)) =
      { server with state := passed.2, sent := server.sent ++ passed.1.map .unasked } := by
  induction count generalizing server with
  | zero => simp [life, Moment.proceedBy]
  | succ count ih =>
    rw [List.replicate_succ]
    refine (ih (server.turn surroundings.launcher (.proceed surroundings.host))).trans ?_
    simp [turn, absorb, Moment.proceedBy]

def Settles (server : Server (Moment W)) (whole : Server (Session W)) : Prop :=
  ∃ enough, ∀ count ≥ enough,
    let ended :=
      server.life surroundings.launcher (List.replicate count (.proceed surroundings.host))
    ended.quieted = whole ∧ ended.state.stage = .due []

variable {surroundings} {server : Server (Moment W)}

theorem settles_of_idle {whole : Server (Session W)} (idle : server.state.stage = .due [])
    (same : server.quieted = whole) : Settles surroundings server whole := by
  refine ⟨0, fun count _ => ?_⟩
  obtain ⟨⟨session, flights, stage⟩, lifecycle, exited, sent⟩ := server
  obtain rfl : stage = .due [] := idle
  rw [life_proceed]
  simpa [Moment.proceedBy_idle] using same

theorem receive_settles (idle : server.state.stage = .due [])
    (notification : NotificationMessage) :
    Settles surroundings (receive (Moment.handler surroundings) notification server)
      (receive (Session.handler surroundings) notification server.quieted) := by
  have same : server.quieted.lifecycle = server.lifecycle := rfl
  unfold receive
  rw [same]
  split
  next => exact settles_of_idle idle rfl
  split
  next => exact settles_of_idle idle rfl
  cases Notice.decoder? notification.method with
  | none => exact settles_of_idle idle rfl
  | some decode =>
    dsimp only
    cases decode notification.params with
    | error _ => exact settles_of_idle idle rfl
    | ok notice =>
      let due := (prepare surroundings server.state.quiet (.notice notice)).2
      refine ⟨3 * due.length, fun count enough => ?_⟩
      obtain ⟨ended, state, notices⟩ :=
        Moment.receive_undisturbed surroundings notice server.state count enough
      rw [life_proceed]
      refine ⟨?_, ended⟩
      simp only [quieted, absorb, List.append_assoc, ← List.map_append, notices]
      rw [show Moment.quiet _ = _ from state]

-- A body that nothing disturbs does what the server does with it over a session.
theorem life_undisturbed (goesOn : server.exited = false) (idle : server.state.stage = .due [])
    (text : String) :
    Settles surroundings (server.turn surroundings.launcher (.body surroundings.host text))
      (handle (Session.handler surroundings) text server.quieted) := by
  rw [turn_body surroundings.launcher goesOn idle]
  unfold handle
  cases Incoming.classify text with
  | error e => exact settles_of_idle idle rfl
  | ok incoming =>
    cases incoming with
    | request request =>
      obtain ⟨replied, state, stage⟩ := reply_quieted surroundings request server
      refine settles_of_idle (stage.trans idle) ?_
      dsimp only
      rw [← replied, ← state]
      rfl
    | notification notification => exact receive_settles idle notification
    | response response => exact settles_of_idle idle rfl

end Undisturbed

end Server

end PythonAssist
