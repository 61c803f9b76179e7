import PythonAssist.Proofs.Server.Lifecycle
import PythonAssist.Proofs.Server.Turns
import PythonAssist.Proofs.Session.Oversight

set_option autoImplicit false

namespace PythonAssist

variable {W S A : Type}

open Session
open Situation (outcome_publishes_nothing)

structure Handler.Keeps (handler : Handler S) (invariant : S → Prop) : Prop where
  connect : ∀ params state, invariant state → invariant (handler.connect params state).state
  shutdown : ∀ state, invariant state → invariant (handler.shutdown state).state
  answer : ∀ query state, invariant state → invariant (handler.answer query state).state
  receive : ∀ notice state, invariant state → invariant (handler.receive notice state).state

theorem Moment.handler_keeps (surroundings : Surroundings W) :
    (handler surroundings).Keeps Overseen where
  connect params moment overseen := by
    obtain ⟨_, after, ⟨-, -, checks, -, -⟩, performed⟩ :=
      perform_ensures (connect_ensures surroundings params moment.quiet)
    simp only [handler, Session.handler, performed]
    exact overseen.reschedule (.of_eq checks)
  shutdown _ overseen := overseen.reschedule .cancelledAll
  answer query moment overseen :=
    overseen.reschedule (prepare_rescheduled surroundings moment.quiet (.query query))
  receive notice moment overseen :=
    overseen.reschedule (prepare_rescheduled surroundings moment.quiet (.notice notice))

theorem Moment.finish_outdated {moment : Moment W} {flight : Flight}
    (member : flight ∈ moment.flights)
    (outdated : moment.session.checks.generation? flight.uri ≠ some flight.generation)
    (run : CheckerRun) :
    moment.finish flight run =
      { result := .ok ()
        notices := (flight.pending.check.outcome run).2
        state :=
          { moment with
            session :=
              { moment.session with
                checks := moment.session.checks.markFinished flight.uri flight.generation
                notices := moment.session.notices ++ (flight.pending.check.outcome run).2 }
            flights := moment.flights.erase flight } } := by
  have dropped : moment.session.checks.isCurrent flight.uri flight.generation = false := by
    simpa [Schedule.isCurrent] using outdated
  simp [finish, member, leave, endCheck, dropped]

def ServerTurn.at (host : Host) : ServerTurn → ServerTurn
  | .body _ text => .body host text
  | .proceed _ => .proceed host
  | .ended flight run => .ended flight run

namespace Server

section Routing

variable {handler : Handler S} {invariant : S → Prop} {server : Server S}

theorem connect_keeps (keeps : handler.Keeps invariant) (params : Json)
    (kept : invariant server.state) : invariant (connect handler params server).2.state := by
  unfold connect
  split
  next => exact kept
  next params _ =>
    have after := keeps.connect params server.state kept
    dsimp only
    split <;> exact after

theorem query_keeps (keeps : handler.Keeps invariant) (method : String) (params : Json)
    (kept : invariant server.state) : invariant (query handler method params server).2.state := by
  unfold query
  repeat' split
  · exact kept
  · exact kept
  · exact keeps.answer _ _ kept

theorem reply_keeps (keeps : handler.Keeps invariant) (request : RequestMessage)
    (kept : invariant server.state) : invariant (reply handler request server).2.state := by
  unfold reply
  repeat' split
  · exact connect_keeps keeps _ kept
  · exact kept
  · exact kept
  · exact kept
  · exact kept
  · exact keeps.shutdown _ kept
  · exact query_keeps keeps _ _ kept

theorem receive_keeps (keeps : handler.Keeps invariant) (notification : NotificationMessage)
    (kept : invariant server.state) : invariant (receive handler notification server).state := by
  unfold receive
  repeat' split
  · exact kept
  · exact kept
  · exact kept
  · exact kept
  · exact keeps.receive _ _ kept

theorem handle_keeps (keeps : handler.Keeps invariant) (body : String)
    (kept : invariant server.state) : invariant (handle handler body server).state := by
  unfold handle
  split
  · exact reply_keeps keeps _ kept
  · exact receive_keeps keeps _ kept
  · exact kept
  · exact kept

theorem handle_retired (retired : server.lifecycle = .shutdownRequested) (body : String) :
    ∃ exited, ∃ responses : List ResponseMessage, ∀ handler : Handler S,
      handle handler body server =
        { server with exited, sent := server.sent ++ responses.map .response } := by
  obtain ⟨state, lifecycle, exited, sent⟩ := server
  obtain rfl : lifecycle = .shutdownRequested := retired
  unfold handle
  cases Incoming.classify body with
  | error e => exact ⟨exited, [_], fun _ => rfl⟩
  | ok incoming =>
    cases incoming with
    | request request =>
      simp only [reply]
      split <;> exact ⟨exited, [_], fun _ => rfl⟩
    | notification notification =>
      simp only [receive]
      split
      · exact ⟨true, [], fun _ => by simp⟩
      · exact ⟨exited, [], fun _ => by simp⟩
    | response response => exact ⟨exited, [], fun _ => by simp⟩

end Routing

section Turns

variable (launcher : Launcher W)

theorem turn_overseen {server : Server (Moment W)} (overseen : server.state.Overseen)
    (next : ServerTurn) : (server.turn launcher next).state.Overseen := by
  cases next with
  | body host text =>
    simp only [turn]
    split
    · exact handle_keeps (Moment.handler_keeps _) text overseen
    · exact overseen
  | proceed host => exact (Moment.proceed_proceeds _ _).overseen overseen
  | ended flight run => exact overseen.finish flight run

theorem life_overseen {server : Server (Moment W)} (overseen : server.state.Overseen)
    (turns : List ServerTurn) : (server.life launcher turns).state.Overseen := by
  induction turns generalizing server with
  | nil => exact overseen
  | cons next rest ih => exact ih (turn_overseen launcher overseen next)

end Turns

structure Retired (server : Server (Moment W)) : Prop where
  lifecycle : server.lifecycle = .shutdownRequested
  idle : server.state.stage = .due []
  outdated : ∀ flight ∈ server.state.flights,
    server.state.session.checks.generation? flight.uri ≠ some flight.generation

def NothingPublished (sent : List Outgoing) : Prop :=
  ∀ uri found version, .unasked (.publishDiagnostics uri found version) ∉ sent

structure Silently (server after : Server (Moment W)) : Prop where
  sent : ∃ later, after.sent = server.sent ++ later ∧ NothingPublished later
  world : after.state.session.world = server.state.session.world
  handles : after.state.session.handles = server.state.session.handles
  flights : ∀ flight ∈ after.state.flights, flight ∈ server.state.flights

namespace Silently

variable {server middle after : Server (Moment W)}

theorem refl (server : Server (Moment W)) : Silently server server :=
  ⟨⟨[], by simp, by simp [NothingPublished]⟩, rfl, rfl, fun _ member => member⟩

theorem trans (first : Silently server middle) (second : Silently middle after) :
    Silently server after := by
  obtain ⟨now, sent, nothing⟩ := first.sent
  obtain ⟨later, more, neither⟩ := second.sent
  refine ⟨⟨now ++ later, by rw [more, sent, List.append_assoc], ?_⟩,
    second.world.trans first.world, second.handles.trans first.handles,
    fun flight member => first.flights flight (second.flights flight member)⟩
  intro uri found version member
  rcases List.mem_append.mp member with before | behind
  · exact nothing uri found version before
  · exact neither uri found version behind

end Silently

namespace Retired

variable {server : Server (Moment W)}

theorem absorb_stay (server : Server (Moment W)) : server.absorb server.state.stay = server := by
  simp [absorb, Moment.stay, Moment.leave]

theorem turn_proceed (retired : Retired server) (launcher : Launcher W) (host : Host) :
    server.turn launcher (.proceed host) = server := by
  simp only [Server.turn, Moment.proceed, retired.idle, absorb_stay]

theorem turn_at (retired : Retired server) (launcher other : Launcher W) (host : Host)
    (next : ServerTurn) : server.turn other (next.at host) = server.turn launcher next := by
  cases next with
  | body _ text =>
    obtain ⟨exited, responses, handled⟩ := handle_retired retired.lifecycle text
    simp only [Server.turn, ServerTurn.at, handled]
  | proceed _ => simp only [ServerTurn.at, retired.turn_proceed]
  | ended flight run => rfl

theorem turn_ended (retired : Retired server) {flight : Flight}
    (member : flight ∈ server.state.flights) (run : CheckerRun) :
    Silently server (server.absorb (server.state.finish flight run)) ∧
      Retired (server.absorb (server.state.finish flight run)) := by
  have generations (uri : Uri) :
      (server.state.session.checks.markFinished flight.uri flight.generation).generation? uri =
        server.state.session.checks.generation? uri := by
    unfold Schedule.generation?
    rw [(Schedule.markFinished_generations _ _ _).1]
  rw [Moment.finish_outdated member (retired.outdated flight member)]
  refine ⟨⟨⟨_, rfl, fun uri found version published => ?_⟩, rfl, rfl,
    fun _ => List.mem_of_mem_erase⟩, retired.lifecycle, retired.idle,
    fun other remains current => ?_⟩
  · obtain ⟨_, complaint, ⟨⟩⟩ := List.mem_map.mp published
    exact outcome_publishes_nothing _ _ _ _ _ complaint
  · have before : server.state.session.checks.generation? other.uri = some other.generation :=
      (generations other.uri).symm.trans current
    exact retired.outdated other (List.mem_of_mem_erase remains) before

theorem turn (retired : Retired server) (launcher : Launcher W) (next : ServerTurn) :
    Silently server (server.turn launcher next) ∧ Retired (server.turn launcher next) := by
  cases next with
  | body host text =>
    obtain ⟨exited, responses, handled⟩ := handle_retired retired.lifecycle text
    simp only [Server.turn, handled]
    split
    next =>
      exact ⟨⟨⟨_, rfl, by simp [NothingPublished]⟩, rfl, rfl, fun _ member => member⟩,
        retired.lifecycle, retired.idle, retired.outdated⟩
    next => exact ⟨.refl server, retired⟩
  | proceed host =>
    rw [retired.turn_proceed]
    exact ⟨.refl server, retired⟩
  | ended flight run =>
    by_cases member : flight ∈ server.state.flights
    next => exact retired.turn_ended member run
    next =>
      have same : server.turn launcher (.ended flight run) = server := by
        simp only [Server.turn, Moment.finish, if_neg member, absorb_stay]
      rw [same]
      exact ⟨.refl server, retired⟩

theorem life (retired : Retired server) (launcher : Launcher W) (turns : List ServerTurn) :
    Silently server (server.life launcher turns) ∧
      ∀ other host, server.life other (turns.map (.at host)) = server.life launcher turns := by
  induction turns generalizing server with
  | nil => exact ⟨.refl server, fun _ _ => rfl⟩
  | cons next rest ih =>
    obtain ⟨now, still⟩ := retired.turn launcher next
    obtain ⟨later, others⟩ := ih still
    refine ⟨now.trans later, fun other host => ?_⟩
    show (server.turn other (next.at host)).life other (rest.map (.at host)) = _
    rw [retired.turn_at launcher]
    exact others other host

end Retired

section Shutdown

variable {server : Server (Moment W)} {body : String} {request : RequestMessage}

structure TakesShutdown (server : Server (Moment W)) (body : String) (request : RequestMessage) :
    Prop where
  goesOn : server.exited = false
  idle : server.state.stage = .due []
  serves : server.lifecycle = .running
  classified : Incoming.classify body = .ok (.request request)
  method : request.method = "shutdown"

theorem turn_shutdown (takes : TakesShutdown server body request) (launcher : Launcher W)
    (host : Host) :
    server.turn launcher (.body host body) =
      let outcome := (Moment.handler { launcher, host }).shutdown server.state
      { server.absorb outcome with
        lifecycle := .shutdownRequested
        sent := server.sent ++ [.response (.success request.id .null)] } := by
  have other : request.method ≠ "initialize" := by simp [takes.method]
  rw [turn_body launcher takes.goesOn takes.idle, handle_request _ takes.classified, reply,
    takes.serves]
  have nothing :
      (server.absorb ((Moment.handler { launcher, host }).shutdown server.state)).sent =
        server.sent :=
    List.append_nil _
  simp only [if_neg other, if_pos takes.method, shutdown, send, nothing]
  rfl

theorem retired_of_shutdown (takes : TakesShutdown server body request)
    (overseen : server.state.Overseen) (launcher : Launcher W) (host : Host) :
    let stopped := server.turn launcher (.body host body)
    stopped.sent = server.sent ++ [.response (.success request.id .null)] ∧
      stopped.state.session.handles = .empty ∧ Retired stopped := by
  rw [turn_shutdown takes]
  exact ⟨rfl, rfl, rfl, takes.idle, overseen.outdated_cancelAll⟩

end Shutdown

-- From the moment on in which the answer to a request to shut down is written no diagnostics are
-- published, whatever bodies come and whichever type checks end, and no check begins. The cache
-- of handles is empty and stays so, and nothing depends on what an engine or a host would say.
theorem nothing_published_after_shutdown (launcher : Launcher W) (python : String)
    (settings : Settings) (world : W) (before : List ServerTurn) (host : Host) (body : String)
    (request : RequestMessage) (after : List ServerTurn) :
    let reached := (start (Moment.start (.create python settings world))).life launcher before
    let stopped := reached.turn launcher (.body host body)
    let ended := stopped.life launcher after
    TakesShutdown reached body request →
      stopped.sent = reached.sent ++ [.response (.success request.id .null)] ∧
        Silently stopped ended ∧ ended.state.session.handles = .empty ∧
        ∀ other host, stopped.life other (after.map (.at host)) = ended := by
  intro reached stopped ended takes
  have initially : (Moment.start (.create python settings world)).Overseen := Overseen.initially
  have overseen : reached.state.Overseen := life_overseen launcher initially before
  obtain ⟨answered, cleared, retired⟩ := retired_of_shutdown takes overseen launcher host
  obtain ⟨silently, alike⟩ := retired.life launcher after
  exact ⟨answered, silently, silently.handles.trans cleared, alike⟩

section Checking

open CannedEngine

-- A document is opened, the pass over it begins a type check, and before the check ends the editor
-- asks for the end.
def checkBegins : List ServerTurn :=
  [.body .bare ("\x7b\"jsonrpc\":\"2.0\",\"id\":1,\"method\":\"initialize\"," ++
      "\"params\":\x7b\"capabilities\":\x7b\x7d\x7d\x7d"),
    .body .bare ("\x7b\"jsonrpc\":\"2.0\",\"method\":\"textDocument/didOpen\"," ++
      "\"params\":\x7b\"textDocument\":\x7b\"uri\":\"file:///app.py\"," ++
      "\"languageId\":\"python\",\"version\":1,\"text\":\"x = 1\\n\"\x7d\x7d\x7d"),
    .proceed .bare, .proceed .bare, .proceed .bare]

def asksForEnd (body : String) : Bool :=
  match Incoming.classify body with
  | .ok (.request request) => request.method == "shutdown"
  | _ => false

theorem nothing_published_after_shutdown_during_check :
    let session := Session.create "python3" { Settings.default with typeCheck := true } silent
    let reached := (start (Moment.start session)).life launcher checkBegins
    let stop := "\x7b\"jsonrpc\":\"2.0\",\"id\":2,\"method\":\"shutdown\"\x7d"
    let check := checkOf 1 1 "x = 1\n"
    let wrong := CheckerRun.finished (Utf8.encode "/app.py:1:1: error: wrong\n") []
    let stopped := reached.turn launcher (.body .bare stop)
    (∃ request, TakesShutdown reached stop request) ∧ check ∈ stopped.state.flights ∧
      Silently stopped (stopped.life launcher [.ended check wrong]) := by
  intro session reached stop check wrong stopped
  have facts : asksForEnd stop = true ∧ reached.exited = false ∧
      reached.state.stage.isIdle = true ∧ reached.lifecycle = .running ∧
      check ∈ stopped.state.flights := by
    decide +kernel
  obtain ⟨asks, goesOn, idle, serves, underWay⟩ := facts
  unfold asksForEnd at asks
  split at asks
  next request classified =>
    have takes : TakesShutdown reached stop request :=
      { goesOn, idle := Stage.eq_of_isIdle idle, serves, classified
        method := beq_iff_eq.mp asks }
    have silence := nothing_published_after_shutdown launcher "python3"
      { Settings.default with typeCheck := true } silent checkBegins .bare stop request
      [.ended check wrong] takes
    exact ⟨⟨request, takes⟩, underWay, silence.2.1⟩
  next => cases asks

end Checking

end Server

end PythonAssist
