import Gdbserver.Inferior.History
import Gdbserver.Server.Exceptions

/-!
# What an exception does to the process

Of all exceptions only two concern the lifecycle: the first thread of a program
that was started, and the end of the process.
-/

set_option autoImplicit false

namespace Gdbserver

open Logic Prog Frame

namespace RspServer

def calm : Frame RspServer := settled.pull RspServer.core

theorem onServer_calm {α : Type} {inner : Prog Server α} (runs : settled.Runs inner) :
    calm.Runs (onServer inner) :=
  Runs.zoom (fun _ _ => rfl) runs

theorem onServer_calm_of_quiet {α : Type} {inner : Prog Server α} (runs : quiet.Runs inner) :
    calm.Runs (onServer inner) :=
  onServer_calm (runs.still.mono Still.lands)

theorem modify_calm {update : RspServer → RspServer}
    (same : ∀ server, (update server).core = server.core) : calm.Runs (modify update) := by
  refine Runs.modify fun server => ?_
  change settled.rel server.core (update server).core
  rw [same]
  exact settled.refl server.core

theorem postWriteTask_settled (isNotification : Bool) (data : Bytes) :
    settled.Runs (postWriteTask isNotification data) := fun _ =>
  ⟨_, _, rfl, rfl, rfl, (List.append_nil _).symm⟩

theorem tryPostNextNotification_calm : calm.Runs tryPostNextNotification := by
  refine Runs.bind Runs.read fun server => ?_
  split
  · exact Runs.bind (modify_calm fun _ => rfl) fun _ =>
      Runs.bind (modify_calm fun _ => rfl) fun _ =>
        Runs.bind (onServer_calm (postWriteTask_settled _ _)) fun _ =>
          Runs.bind (modify_calm fun _ => rfl) fun _ => Runs.pure
  · exact Runs.pure

theorem queueStopNotification_calm (env : Env) (event : Bytes) (timeout : Nat) :
    calm.Runs (queueStopNotification env event timeout) :=
  Runs.bind Runs.read fun _ => Runs.bind (modify_calm fun _ => rfl) fun _ =>
    Runs.bind (modify_calm fun _ => rfl) fun _ =>
      Runs.bind tryPostNextNotification_calm fun _ => Runs.pure

theorem refreshedRegisters_quiet (env : Env) (tid : Koid) : quiet.Runs (refreshedRegisters env tid) :=
  Runs.bind (Registers.refreshGeneralRegisters_beside env tid).quiet fun _ =>
    Runs.ite (fun _ => Runs.read) fun _ => Runs.pure

theorem watchDynamicLinker_quiet (env : Env) (tid : Koid) (type : ExceptionType) :
    quiet.Runs (watchDynamicLinker env tid type) :=
  Runs.bind Runs.read fun _ => Runs.ite
    (fun _ => (Process.tryBuildLoadedDsosList_quiet env tid)) fun _ => Runs.pure

theorem exceptionThread_quiet (env : Env) (tid : Koid) : quiet.Runs (exceptionThread env tid) :=
  Runs.ite (fun _ => (Process.findThreadById_quiet env tid)) fun _ => Runs.pure

theorem onArchitecturalException_calm (env : Env) (tid : Koid) (context : ExceptionContext) :
    calm.Runs (onArchitecturalException env tid context) :=
  Runs.bind Runs.read fun _ => Runs.ite (fun _ => Runs.pure) fun _ => Runs.bind Runs.read fun _ =>
    Runs.bind (onServer_calm_of_quiet (refreshedRegisters_quiet env tid)) fun _ =>
      queueStopNotification_calm env _ _

theorem onArchException_calm (env : Env) (tid : Koid) (type : ExceptionType)
    (context : ExceptionContext) : calm.Runs (onArchException env tid type context) :=
  Runs.bind (onServer_calm_of_quiet (watchDynamicLinker_quiet env tid type)) fun _ =>
    Runs.bind (onServer_calm_of_quiet (Thread.onException_quiet env tid type context)) fun _ =>
      onArchitecturalException_calm env tid context

theorem onThreadExiting_calm (env : Env) (tid : Koid) : calm.Runs (onThreadExiting env tid) :=
  Runs.bind Runs.read fun _ => Runs.bind (queueStopNotification_calm env _ _) fun _ =>
    onServer_calm_of_quiet (Thread.resumeForExit_quiet env tid)

theorem onProcessExit_calm (env : Env) : calm.Runs (onProcessExit env) :=
  Runs.bind (onServer_calm_of_quiet (Server.setCurrentThread_quiet none)) fun _ =>
    Runs.bind (onServer_calm_of_quiet (Process.exitCode_quiet env)) fun _ =>
      queueStopNotification_calm env _ _

inductive Transition (before after : Server) : Prop
  | none (kept : settled.rel before after)
  | running (starting : before.process.state = .starting)
      (lands : Lands before after { before.process.lifecycle with state := .running }
        [.moved .starting .running])
  | exited (attached : before.process.isAttached = true)
      (lands : Lands before after before.process.lifecycle.detached.cleared
        (.moved before.process.state .gone ::
          (asserted .rawDetachHandle (before.process.handle ≠ 0) ++ [.moved .gone .gone])))
  | vanished (free : before.process.isAttached = false)
      (lands : Lands before after before.process.lifecycle.cleared
        [.moved before.process.state .gone, .moved .gone .gone])

theorem Transition.hasProcess {before after : Server} (transition : Transition before after) :
    after.hasProcess = before.hasProcess := by
  cases transition with
  | none kept => exact kept.hasProcess
  | running _ lands | exited _ lands | vanished _ lands => exact lands.hasProcess

theorem Transition.within {first before after last : Server} (head : settled.rel first before)
    (transition : Transition before after) (tail : settled.rel after last) :
    Transition first last := by
  have members : before.process.lifecycle = first.process.lifecycle := head.lifecycle
  have state : before.process.state = first.process.state := congrArg Lifecycle.state members
  have attached : before.process.isAttached = first.process.isAttached :=
    congrArg Lifecycle.isAttached members
  have handle : before.process.handle = first.process.handle := congrArg Lifecycle.handle members
  cases transition with
  | none kept => exact .none (settled.trans head (settled.trans kept tail))
  | running starting lands =>
      rw [members] at lands
      exact .running (state.symm.trans starting) ((lands.before tail).after head)
  | exited bound lands =>
      rw [members, state, handle] at lands
      exact .exited (attached.symm.trans bound) ((lands.before tail).after head)
  | vanished free lands =>
      rw [members, state] at lands
      exact .vanished (attached.symm.trans free) ((lands.before tail).after head)

/-- The first thread of a program that was started makes it run. -/
theorem onThreadStarting_transition (env : Env) (context : ExceptionContext) (server : RspServer) :
    Transition server.core (onThreadStarting env context server).2.core := by
  cases state : server.core.process.state with
  | new =>
      simp only [onThreadStarting, read_bind, state]
      exact .none (settled.refl _)
  | gone =>
      simp only [onThreadStarting, read_bind, state]
      exact .none (settled.refl _)
  | running =>
      simp only [onThreadStarting, read_bind, state]
      exact .none ((queueStopNotification_calm env _ _).keeps server)
  | starting =>
      simp only [onThreadStarting, read_bind, state]
      refine .running state ⟨rfl, rfl, ?_⟩
      rw [← state, ← history_append]
      rfl

theorem onServer_of_ran {α : Type} {inner : Prog Server α} {server : RspServer} {value : α}
    {core : Server} (ran : inner server.core = (some value, core)) :
    onServer inner server = (some value, { server with core := core }) := by
  rw [onServer, zoom_apply, ran]

/-- The end of the process is reported while it is still attached. -/
theorem onGone_transition (env : Env) (server : RspServer) :
    Transition server.core (onGone env server).2.core := by
  obtain ⟨gone, ranGone, first⟩ := Process.setState_spec .gone server.core
  obtain ⟨_, told, ranExit, reported⟩ := onProcessExit_calm env { server with core := gone }
  have state : told.core.process.state = .gone :=
    congrArg Lifecycle.state (reported.lifecycle.trans first.lifecycle)
  have handle : told.core.process.handle = server.core.process.handle :=
    congrArg Lifecycle.handle (reported.lifecycle.trans first.lifecycle)
  have key : told.core.process.isAttached = server.core.process.isAttached :=
    congrArg Lifecycle.isAttached (reported.lifecycle.trans first.lifecycle)
  rw [onGone, bind_of_some (onServer_of_ran ranGone), bind_of_some ranExit]
  have sofar := first.lands.before reported
  cases attached : server.core.process.isAttached with
  | true =>
      obtain ⟨after, ran, moved⟩ := Process.detach_spec told.core (key.trans attached)
      rw [bind_of_some (onServer_of_ran ran)]
      have lands := sofar.trans moved.lands
      rw [sofar.lifecycle, state, handle] at lands
      exact .exited attached lands
  | false =>
      have free := Process.detach_of_not_attached told.core (key.trans attached)
      obtain ⟨after, ran, moved⟩ := Process.clear_spec told.core
      rw [bind_of_some (onServer_of_ran free)]
      change Transition _ (onServer Process.clear told).2.core
      rw [onServer_of_ran ran]
      have lands := sofar.trans moved.lands
      have free' : told.core.process.lifecycle.isAttached = false := key.trans attached
      rw [Lifecycle.clearEvents_of_not_attached free', sofar.lifecycle] at lands
      exact .vanished attached lands

theorem onException_transition (env : Env) (type : ExceptionType) (context : ExceptionContext)
    (server : RspServer) : Transition server.core (onException env type context server).2.core := by
  have acts : calm.AtMostOnce (fun before after => Transition before.core after.core)
      (onException env type context) := by
    refine AtMostOnce.after (onServer_calm_of_quiet (exceptionThread_quiet env context.tid)).keeps
      fun found => ?_
    refine AtMostOnce.ite (fun _ => ?_) fun _ => ?_
    · cases found with
      | none => exact Keeps.stop.atMostOnce
      | some tid => exact (onArchException_calm env tid type context).keeps.atMostOnce
    · cases type with
      | threadStarting =>
          cases found with
          | none => exact Keeps.stop.atMostOnce
          | some tid =>
              exact AtMostOnce.after
                (onServer_calm_of_quiet (Thread.onException_quiet env tid _ context)).keeps
                fun _ => AtMostOnce.act (onThreadStarting_transition env context)
      | threadExiting =>
          cases found with
          | none => exact Keeps.stop.atMostOnce
          | some tid =>
              exact (Runs.bind
                (onServer_calm_of_quiet (Thread.onException_quiet env tid _ context)) fun _ =>
                  onThreadExiting_calm env tid).keeps.atMostOnce
      | gone => exact AtMostOnce.act (onGone_transition env)
      | general | fatalPageFault | undefinedInstruction | swBreakpoint | hwBreakpoint
      | unrecognized => exact Keeps.pure.atMostOnce
  rcases acts server with kept | ⟨first, last, head, transition, tail⟩
  · exact .none kept
  · exact transition.within head tail

/-! ## Sizes of the stop replies -/

/-- Far shorter than the output buffer. -/
def ShortEvent (event : Bytes) : Prop := event.length ≤ 128

theorem shortEvent_build (packet : StopReplyPacket)
    (registers : (packet.registerValues.map fun value => value.length + 1).sum ≤ 60)
    (thread : packet.tidString.length ≤ 34) (reason : packet.stopReason.length ≤ 7) :
    ShortEvent packet.build := by
  have whole := packet.build_length
  unfold ShortEvent
  omega

theorem threadStartingReply_short (env : Env) (processId tid : Koid) :
    ShortEvent (threadStartingReply env processId tid).build :=
  shortEvent_build _ (Nat.zero_le _) (Util.encodeThreadId_length env.ftl processId tid)
    (Nat.le_refl 7)

theorem threadExitingReply_short (env : Env) (processId tid : Koid) :
    ShortEvent (threadExitingReply env processId tid).build :=
  shortEvent_build _ (Nat.zero_le _) (Util.encodeThreadId_length env.ftl processId tid)
    (Nat.zero_le _)

theorem processExitReply_short (exitCode : Int) : ShortEvent (processExitReply exitCode).build :=
  shortEvent_build _ (Nat.zero_le _) (Nat.zero_le _) (Nat.zero_le _)

/-- Three registers of at most eight bytes each. -/
theorem archExceptionReply_short (env : Env) (signal : GdbSignal) (processId tid : Koid)
    (gregs : Option RegisterSet) :
    ShortEvent (archExceptionReply env signal processId tid gregs).build := by
  have id := Util.encodeThreadId_length env.ftl processId tid
  cases gregs with
  | none => exact shortEvent_build _ (Nat.zero_le _) id (Nat.zero_le _)
  | some gregs =>
      refine shortEvent_build _ ?_ id (Nat.zero_le _)
      have register (regno : Int) := Registers.getRegisterAsString_length env.arch gregs regno
      have first := register env.arch.getFPRegisterNumber
      have second := register env.arch.getSPRegisterNumber
      have third := register env.arch.getPCRegisterNumber
      simp only [archExceptionReply, addRegister, StopReplyPacket.addRegisterValue,
        List.foldl_cons, List.foldl_nil, StopReplyPacket.setThreadId,
        StopReplyPacket.setSignalNumber, StopReplyPacket.ofType, List.nil_append, List.cons_append,
        List.map_cons, List.map_nil, List.sum_cons, List.sum_nil, List.length_append,
        List.length_cons, Util.encodeByteString_length]
      omega

end RspServer

end Gdbserver
