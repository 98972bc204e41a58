import Gdbserver.Server.CommandHandlerProperties
import Gdbserver.Server.Debugserver
import Gdbserver.Server.ExceptionProperties

/-!
# What start-up and one input do to the process

Start-up leaves a new process, or one that is attached to. After that the
lifecycle is changed by commands and exceptions only.
-/

set_option autoImplicit false

namespace Gdbserver

open Logic Prog Frame

theorem Ended.lands {before after : Server} {posts : List Post} {last : Lifecycle}
    {events : List Event} (ended : Ended before after posts last events) :
    Lands before after last events := by
  obtain ⟨middle, moved, kept⟩ := ended
  have lands : Lands before middle last events := ⟨moved.hasProcess, moved.lifecycle, moved.lands.history⟩
  have tail := kept.lands
  exact lands.before tail

theorem CommandHandler.Effect.lands {env : Env} {before after : Server} {packet : Bytes}
    {outcome : Option Bool} (effect : Effect env before packet outcome after) :
    ∃ last events, Lands before after last events := by
  obtain ⟨posts, last, events, ended, -⟩ := effect.change
  exact ⟨last, events, ended.lands⟩

namespace Debugserver

def newLifecycle : Lifecycle := newProcess.lifecycle

def portCreated (env : Env) (config : Config) : Bool :=
  ¬ env.now .portCreate (newServer config) < (0 : Int)

/-- The members `Initialize(pid)` leaves at start-up. -/
def attaching (config : Config) : Lifecycle :=
  { newLifecycle with attachedRunning := true, id := config.attachPid }

inductive StartOutcome (env : Env) (config : Config) : Lifecycle → List Event → Prop
  | program (none : config.attachPid = 0) : StartOutcome env config newLifecycle []
  | noPort (pid : config.attachPid ≠ 0) (failed : portCreated env config = false) :
      StartOutcome env config (attaching config) []
  | attach {last : Lifecycle} {events : List Event} (pid : config.attachPid ≠ 0)
      (port : portCreated env config = true)
      (outcome : AttachOutcome (Process.attachGranted env (newServer config)) (attaching config) last
        events) : StartOutcome env config last events

theorem connect_spec (env : Env) (config : Config) (server : Server)
    (calls : server.calls = (newServer config).calls)
    (port : server.exceptionPort = (newServer config).exceptionPort) :
    ∃ ok after last events, connect env server = (some ok, after) ∧
      Moves server after last events ∧
      if server.process.attachedRunning && portCreated env config then
        AttachOutcome (Process.attachGranted env (newServer config)) server.process.lifecycle last
          events
      else last = server.process.lifecycle ∧ events = [] := by
  have asked (start : Server) (call : Call) :
      Moves start (start.asked call) start.process.lifecycle [] :=
    ⟨rfl, rfl, rfl, (List.append_nil _).symm⟩
  have answer : env.now .portCreate server = env.now .portCreate (newServer config) := by
    rw [Env.now, Env.now, calls]
  rw [connect, ask_bind, answer]
  by_cases failed : env.now .portCreate (newServer config) < (0 : Int)
  · refine ⟨false, _, _, _, by rw [if_pos failed]; rfl, asked server .portCreate, ?_⟩
    simp [portCreated, failed]
  · rw [if_neg failed, read_bind]
    cases running : server.process.attachedRunning with
    | false =>
        rw [if_neg (by rw [Server.asked, running]; exact Bool.false_ne_true)]
        exact ⟨_, _, _, _, rfl, (asked server .portCreate).trans (asked _ .listen), rfl, rfl⟩
    | true =>
        obtain ⟨attached, last, events, ran, outcome, moved⟩ :=
          Process.attach_outcome env (server.asked .portCreate)
        have granted : Process.attachGranted env (server.asked .portCreate) =
            Process.attachGranted env (newServer config) := by
          refine Process.attachGranted_congr env ?_ ?_ port
          · exact (server.asked_calls (by decide)).trans (congrFun calls _)
          · exact (server.asked_calls (by decide)).trans (congrFun calls _)
        rw [granted] at outcome ran
        have created : portCreated env config = true := by simp [portCreated, failed]
        have both := (asked server .portCreate).trans moved
        rw [if_pos (by rw [Server.asked, running]), bind_of_some ran, created]
        split
        · exact ⟨false, attached, last, events, rfl, both, outcome⟩
        · refine ⟨_, _, last, events, rfl, ?_, outcome⟩
          have heard := both.trans (asked attached .listen)
          rw [moved.lifecycle, List.append_nil] at heard
          exact heard

theorem startUp_spec (env : Env) (config : Config) :
    ∃ ok after last events, startUp env config (newServer config) = (some ok, after) ∧
      StartOutcome env config last events ∧ after.hasProcess = true ∧ after.posted = [] ∧
      after.process.lifecycle = last ∧ after.log = events := by
  by_cases pid : config.attachPid = 0
  · let ready : Server := { newServer config with
      process := { newProcess with argv := config.argv }, hasProcess := true }
    obtain ⟨ok, after, last, events, ran, moved, outcome⟩ := connect_spec env config ready rfl rfl
    have off : ready.process.attachedRunning = false := rfl
    rw [off, Bool.false_and, if_neg Bool.false_ne_true] at outcome
    obtain ⟨same, none⟩ := outcome
    refine ⟨ok, after, newLifecycle, [], ?_, .program pid, moved.hasProcess, moved.posted,
      moved.lifecycle.trans same, by rw [moved.log, none]; rfl⟩
    rw [← ran, startUp, setUpInferior, if_neg (not_not.mpr pid)]
    rfl
  · obtain ⟨entered, ranEnter, ⟨calls, port⟩, first⟩ :=
      Process.initializePid_spec config.attachPid (newServer config)
    let ready : Server := { entered with hasProcess := true }
    obtain ⟨ok, after, last, events, ran, moved, outcome⟩ :=
      connect_spec env config ready calls port
    have started : startUp env config (newServer config) = (some ok, after) := by
      rw [startUp, setUpInferior, if_pos pid, bind_of_some ranEnter, if_not_true]
      exact ran
    have members : ready.process.lifecycle = attaching config := first.lifecycle
    have log : after.log = events := by
      rw [moved.log]
      exact congrArg (· ++ events) first.log
    have running : ready.process.attachedRunning = true :=
      congrArg Lifecycle.attachedRunning members
    rw [running, Bool.true_and, members] at outcome
    refine ⟨ok, after, last, events, started, ?_, moved.hasProcess, ?_, moved.lifecycle, log⟩
    · cases created : portCreated env config with
      | false =>
          rw [created, if_neg Bool.false_ne_true] at outcome
          obtain ⟨same, none⟩ := outcome
          rw [same, none]
          exact .noPort pid created
      | true =>
          rw [created, if_pos rfl] at outcome
          exact .attach pid created outcome
    · exact moved.posted.trans first.posted

end Debugserver

namespace RspServer

theorem onStopAck_calm : calm.Runs onStopAck := by
  refine Runs.bind Runs.read fun server => ?_
  split
  · exact Runs.pure
  · exact Runs.bind (modify_calm fun _ => rfl) fun _ =>
      Runs.bind (modify_calm fun _ => rfl) fun _ => Runs.bind (modify_calm fun _ => rfl) fun _ =>
        onServer_calm (postWriteTask_settled false _)
  · exact Runs.bind (modify_calm fun _ => rfl) fun _ =>
      Runs.bind (modify_calm fun _ => rfl) fun _ => Runs.bind (modify_calm fun _ => rfl) fun _ =>
        onServer_calm (postWriteTask_settled false _)

theorem onTimeout_calm (index : Nat) : calm.Runs (onTimeout index) := by
  refine Runs.bind Runs.read fun tasks => ?_
  split
  · exact Runs.pure
  · refine Runs.bind (modify_calm fun _ => rfl) fun _ => Runs.bind Runs.read fun pending => ?_
    split
    · exact Runs.pure
    · exact Runs.ite (fun _ => Runs.pure) fun _ => Runs.bind (modify_calm fun _ => rfl) fun _ =>
        Runs.bind (onServer_calm (postWriteTask_settled true _)) fun _ => modify_calm fun _ => rfl

theorem routeCommand_settled (env : Env) (packet : Bytes) (server : Server) :
    settled.rel (CommandHandler.handleCommand env packet server).2
      (routeCommand env packet server).2 := by
  rw [routeCommand, bind_apply]
  rcases CommandHandler.handleCommand env packet server with ⟨_ | handled, after⟩
  · exact settled.refl after
  · cases handled with
    | true => exact settled.refl after
    | false => exact (postWriteTask_settled false []).keeps after

/-- What an input does to the process. -/
inductive Step (env : Env) (before : Server) : Input → Server → Prop
  | idle {input : Input} {after : Server}
      (quiet : ∀ bytes packet, input = .bytesRead bytes → Util.verifyPacket bytes = some packet →
        packet = kStopAck)
      (kept : settled.rel before after) : Step env before input after
  | command {bytes packet : Bytes} {after : Server}
      (accepted : Util.verifyPacket bytes = some packet)
      (tail : settled.rel
        (CommandHandler.handleCommand env packet (before.post [.ack true])).2 after) :
      Step env before (.bytesRead bytes) after
  | exception {key : UInt64} {type : ExceptionType} {context : ExceptionContext} {after : Server}
      (transition : Transition before after) :
      Step env before (.exception key type context) after

theorem Step.hasProcess {env : Env} {before after : Server} {input : Input}
    (step : Step env before input after) : after.hasProcess = before.hasProcess := by
  cases step with
  | idle quiet kept => exact kept.hasProcess
  | command accepted tail =>
      obtain ⟨last, events, lands⟩ := (CommandHandler.handleCommand_effect env _ _).lands
      exact tail.hasProcess.trans lands.hasProcess
  | exception transition => exact transition.hasProcess

theorem onBytesRead_step (env : Env) (bytes : Bytes) (server : RspServer) :
    Step env server.core (.bytesRead bytes) (onBytesRead env bytes server).2.core := by
  rw [onBytesRead]
  by_cases plus : bytes = ascii "+"
  · rw [if_pos plus]
    refine .idle (fun other packet same accepted => ?_) (settled.refl _)
    cases same
    rw [plus, show Util.verifyPacket (ascii "+") = none from rfl] at accepted
    cases accepted
  · rw [if_neg plus]
    cases verified : Util.verifyPacket bytes with
    | none =>
        refine .idle (fun other packet same accepted => ?_) ⟨rfl, rfl, (List.append_nil _).symm⟩
        cases same
        rw [verified] at accepted
        cases accepted
    | some packet =>
        have acked : onServer (sendAck true) server =
            (some (), { server with core := server.core.post [.ack true] }) := rfl
        dsimp only
        rw [bind_of_some acked]
        split
        · rename_i ack
          refine .idle (fun other data same accepted => ?_) ?_
          · cases same
            cases verified.symm.trans accepted
            exact ack
          · have posted : settled.rel server.core (server.core.post [.ack true]) :=
              ⟨rfl, rfl, (List.append_nil _).symm⟩
            exact settled.trans posted
              (onStopAck_calm.keeps { server with core := server.core.post [.ack true] })
        · exact .command verified (routeCommand_settled env packet _)

theorem handle_step (env : Env) (input : Input) (server : RspServer) :
    Step env server.core input (handle env input server).2.core := by
  have other {input : Input} {after : Server} (kept : settled.rel server.core after)
      (quiet : ∀ bytes, input ≠ .bytesRead bytes) : Step env server.core input after :=
    .idle (fun bytes _ same => absurd same (quiet bytes)) kept
  cases input with
  | bytesRead bytes => exact onBytesRead_step env bytes server
  | exception key type context =>
      simp only [handle, dispatchException, read_bind]
      split
      · exact .exception (onException_transition env type context server)
      · exact .exception (.none (settled.refl _))
  | timeout index => exact other ((onTimeout_calm index).keeps server) fun _ => nofun
  | queueStopNotification event timeout =>
      exact other ((queueStopNotification_calm env event timeout).keeps server) fun _ => nofun
  | inferior kernel => exact other ⟨rfl, rfl, (List.append_nil _).symm⟩ fun _ => nofun

end RspServer

end Gdbserver
