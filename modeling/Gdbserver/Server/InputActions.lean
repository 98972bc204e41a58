import Gdbserver.Server.CommandActions
import Gdbserver.Server.Debugserver
import Gdbserver.Server.ExceptionProperties

/-!
# What one input does to the threads

Commands resume threads and exceptions stop them; everything else an input does
to a thread is to read and to write its registers.
-/

set_option autoImplicit false

namespace Gdbserver

open Logic Prog Frame

def Permits.nothing : Permits :=
  ⟨fun _ => False, fun _ => False, fun _ => False, fun _ => False⟩

def Permits.postsOnly : Permits := { Permits.nothing with posts := fun _ => True }

/-- What an input may lead to. -/
def Input.permits : Input → Permits
  | .bytesRead _ => .command fun _ => True
  | .exception _ type context =>
      ⟨fun _ => True, fun _ => False, fun tid => tid = context.tid ∧ type ≠ .gone,
        fun tid => tid = context.tid ∧ type = .threadExiting⟩
  | .timeout _ | .queueStopNotification _ _ | .inferior _ => .postsOnly

section Inferior

variable {env : Env} {allowed : Permits} (tid : Koid)

theorem Thread.onException_acts (may : allowed.halts tid) (type : ExceptionType)
    (context : ExceptionContext) :
    (acting env allowed).Keeps (Thread.onException env tid type context) := by
  intro server
  rw [Thread.onException_eq]
  refine (acting env allowed).trans (.single (.touched (.halted server may context))) ?_
  split
  · exact Keeps.bind (Thread.removeSingleStepBreakpoint_acts tid) (fun _ => Keeps.pure) _
  · exact .refl

theorem Thread.resumeForExit_acts (may : allowed.exits tid) :
    (acting env allowed).Keeps (Thread.resumeForExit env tid) :=
  Keeps.step fun server => .touched (.left server may)

theorem CommandHandler.handleQueryXfer_acts (allows : Allows env allowed)
    (any : ∀ response, allowed.posts (.write false response)) (params : Bytes) :
    (acting env allowed).Keeps (handleQueryXfer env params) := by
  refine Keeps.ite (fun _ => Keeps.pure) fun _ => ?_
  split
  · split
    · exact replyWithError_acts allows .inval
    · exact Keeps.bind Keeps.read fun _ => Keeps.ite (fun _ => replyWithError_acts allows .perm)
        fun _ => Keeps.ite (fun _ => replyWithError_acts allows .inval) fun _ =>
          Keeps.bind (ask_acts rfl) fun _ => Keeps.bind Keeps.read fun _ => reply_acts (any _)
  · exact replyWithError_acts allows .inval

end Inferior

namespace RspServer

/-- What the server does beside the inferior is not about threads. -/
def acts (env : Env) (allowed : Permits) : Frame RspServer := (acting env allowed).pull core

section Server

variable {env : Env} {allowed : Permits}

theorem onServer_acts {α : Type} {inner : Prog Server α}
    (kept : (acting env allowed).Keeps inner) : (acts env allowed).Keeps (onServer inner) :=
  fun server => kept server.core

theorem modify_acts {update : RspServer → RspServer}
    (same : ∀ server, (update server).core = server.core) :
    (acts env allowed).Keeps (modify update) := by
  intro server
  change (acting env allowed).rel server.core (update server).core
  rw [same]
  exact .refl

theorem exceptionThread_acts (tid : Koid) : (acting env allowed).Keeps (exceptionThread env tid) :=
  Keeps.ite (fun _ => Process.findThreadById_acts tid) fun _ => Keeps.pure

theorem exceptionThread_found {tid found : Koid} {server after : Server}
    (ran : exceptionThread env tid server = (some (some found), after)) :
    found = tid ∧ tid ∈ after.process.threads.keys := by
  rw [exceptionThread] at ran
  split at ran
  · exact Process.findThreadById_found ran
  · cases ran

theorem watchDynamicLinker_acts (tid : Koid) (type : ExceptionType) :
    (acting env allowed).Keeps (watchDynamicLinker env tid type) :=
  Keeps.bind Keeps.read fun _ => Keeps.ite (fun _ => Process.tryBuildLoadedDsosList_acts tid)
    fun _ => Keeps.pure

variable (any : ∀ post, allowed.posts post)
include any

theorem postWriteTask_acts (isNotification : Bool) (data : Bytes) :
    (acting env allowed).Keeps (postWriteTask isNotification data) :=
  Keeps.step fun server => .posted server (.write isNotification data) (any _)

theorem sendAck_acts (verified : Bool) : (acting env allowed).Keeps (sendAck verified) :=
  Keeps.step fun server => .posted server (.ack verified) (any _)

theorem tryPostNextNotification_acts : (acts env allowed).Keeps tryPostNextNotification := by
  refine Keeps.bind Keeps.read fun server => ?_
  split
  · exact Keeps.bind (modify_acts fun _ => rfl) fun _ => Keeps.bind (modify_acts fun _ => rfl)
      fun _ => Keeps.bind (onServer_acts (postWriteTask_acts any _ _)) fun _ =>
        Keeps.bind (modify_acts fun _ => rfl) fun _ => Keeps.pure
  · exact Keeps.pure

theorem queueStopNotification_acts (event : Bytes) (timeout : Nat) :
    (acts env allowed).Keeps (queueStopNotification env event timeout) :=
  Keeps.bind Keeps.read fun _ => Keeps.bind (modify_acts fun _ => rfl) fun _ =>
    Keeps.bind (modify_acts fun _ => rfl) fun _ =>
      Keeps.bind (tryPostNextNotification_acts any) fun _ => Keeps.pure

theorem onTimeout_acts (index : Nat) : (acts env allowed).Keeps (onTimeout index) := by
  refine Keeps.bind Keeps.read fun tasks => ?_
  split
  · exact Keeps.pure
  · refine Keeps.bind (modify_acts fun _ => rfl) fun _ => Keeps.bind Keeps.read fun pending => ?_
    cases pending with
    | none => exact Keeps.pure
    | some pending =>
        exact Keeps.ite (fun _ => Keeps.pure) fun _ => Keeps.bind (modify_acts fun _ => rfl)
          fun _ => Keeps.bind (onServer_acts (postWriteTask_acts any _ _)) fun _ =>
            modify_acts fun _ => rfl

theorem onStopAck_acts : (acts env allowed).Keeps onStopAck := by
  refine Keeps.bind Keeps.read fun server => ?_
  split
  · exact Keeps.pure
  all_goals
    exact Keeps.bind (modify_acts fun _ => rfl) fun _ => Keeps.bind (modify_acts fun _ => rfl)
      fun _ => Keeps.bind (modify_acts fun _ => rfl) fun _ =>
        onServer_acts (postWriteTask_acts any _ _)

theorem routeCommand_acts (resumes : ∀ tid, allowed.resumes tid) (packetData : Bytes) :
    (acting env allowed).Keeps (routeCommand env packetData) := by
  have allows : CommandHandler.Allows env allowed := ⟨fun _ _ => any _, any _, resumes⟩
  exact Keeps.bind (CommandHandler.handleCommand_acts allows packetData fun _ _ _ =>
    CommandHandler.handleQueryXfer_acts allows (fun _ => any _) _) fun _ =>
      Keeps.ite (fun _ => Keeps.pure) fun _ => CommandHandler.callback_acts (any _)

/-- What follows the acknowledgment of a packet. -/
theorem packetData_acts (resumes : ∀ tid, allowed.resumes tid) (packetData : Bytes) :
    (acts env allowed).Keeps (if packetData = kStopAck then onStopAck
      else onServer (routeCommand env packetData)) :=
  Keeps.ite (fun _ => onStopAck_acts any) fun _ =>
    onServer_acts (routeCommand_acts any resumes packetData)

theorem onBytesRead_acts (resumes : ∀ tid, allowed.resumes tid) (bytes : Bytes) :
    (acts env allowed).Keeps (onBytesRead env bytes) := by
  refine Keeps.ite (fun _ => Keeps.pure) fun _ => ?_
  split
  · exact onServer_acts (sendAck_acts any false)
  · exact Keeps.bind (onServer_acts (sendAck_acts any true)) fun _ =>
      packetData_acts any resumes _

theorem onThreadStarting_acts (context : ExceptionContext) :
    (acts env allowed).Keeps (onThreadStarting env context) := by
  refine Keeps.bind Keeps.read fun process => ?_
  cases process.state with
  | starting =>
      exact onServer_acts
        (Keeps.bind (postWriteTask_acts any _ _) fun _ => Process.setState_acts _)
  | running => exact queueStopNotification_acts any _ _
  | new => exact Keeps.pure
  | gone => exact Keeps.pure

theorem onThreadExiting_acts {tid : Koid} (may : allowed.exits tid) :
    (acts env allowed).Keeps (onThreadExiting env tid) :=
  Keeps.bind Keeps.read fun _ => Keeps.bind (queueStopNotification_acts any _ _) fun _ =>
    onServer_acts (Thread.resumeForExit_acts tid may)

theorem onGone_acts : (acts env allowed).Keeps (onGone env) :=
  Keeps.bind (onServer_acts (Process.setState_acts .gone)) fun _ =>
    Keeps.bind (Keeps.bind (onServer_acts Server.unsetCurrentThread_acts) fun _ =>
      Keeps.bind (onServer_acts Process.exitCode_acts) fun _ => queueStopNotification_acts any _ _)
      fun _ => Keeps.bind (onServer_acts Process.detach_acts) fun _ =>
        Keeps.ite (fun _ => Keeps.pure) fun _ => onServer_acts Process.clear_acts

theorem onArchitecturalException_acts (tid : Koid) (context : ExceptionContext) :
    (acts env allowed).Keeps (onArchitecturalException env tid context) := by
  have refreshed : (acting env allowed).Keeps (refreshedRegisters env tid) :=
    Keeps.bind (Registers.refreshGeneralRegisters_acts tid) fun _ =>
      Keeps.ite (fun _ => Keeps.read) fun _ => Keeps.pure
  exact Keeps.bind Keeps.read fun _ => Keeps.ite (fun _ => Keeps.pure) fun _ =>
    Keeps.bind Keeps.read fun _ => Keeps.bind (onServer_acts refreshed) fun _ =>
      queueStopNotification_acts any _ _

theorem onArchException_acts {tid : Koid} (may : allowed.halts tid) (type : ExceptionType)
    (context : ExceptionContext) :
    (acts env allowed).Keeps (onArchException env tid type context) :=
  Keeps.bind (onServer_acts (watchDynamicLinker_acts tid type)) fun _ =>
    Keeps.bind (onServer_acts (Thread.onException_acts tid may type context)) fun _ =>
      onArchitecturalException_acts any tid context

end Server

theorem handle_exception (env : Env) (key : UInt64) (type : ExceptionType)
    (context : ExceptionContext) (server : RspServer) :
    handle env (.exception key type context) server =
      (if key ∈ server.core.exceptionPort.callbacks then onException env type context
        else pure () : Prog RspServer Unit) server := rfl

theorem onException_acts (env : Env) (key : UInt64) (type : ExceptionType)
    (context : ExceptionContext) :
    (acts env (Input.exception key type context).permits).Keeps (onException env type context) := by
  intro server
  refine rel_bind (onServer_acts (exceptionThread_acts context.tid) server)
    fun thread reached ran => ?_
  have same (tid : Koid) (found : thread = some tid) : tid = context.tid := by
    subst found
    have value : (exceptionThread env context.tid server.core).1 = some (some tid) :=
      congrArg Prod.fst ran
    exact (exceptionThread_found (Prod.ext value rfl)).1
  have any (post : Post) : (Input.exception key type context).permits.posts post := trivial
  have halts (alive : type ≠ .gone) :
      (Input.exception key type context).permits.halts context.tid := ⟨rfl, alive⟩
  cases thread with
  | none =>
      cases type with
      | general | fatalPageFault | undefinedInstruction | swBreakpoint | hwBreakpoint
      | threadStarting | threadExiting => exact Keeps.stop reached
      | gone => exact onGone_acts any reached
      | unrecognized => exact Keeps.pure reached
  | some tid =>
      obtain rfl : tid = context.tid := same tid rfl
      cases type with
      | general | fatalPageFault | undefinedInstruction | swBreakpoint | hwBreakpoint =>
          exact onArchException_acts any (halts nofun) _ context reached
      | threadStarting =>
          exact Keeps.bind (onServer_acts (Thread.onException_acts _ (halts nofun) _ context))
            (fun _ => onThreadStarting_acts any context) reached
      | threadExiting =>
          exact Keeps.bind (onServer_acts (Thread.onException_acts _ (halts nofun) _ context))
            (fun _ => onThreadExiting_acts any ⟨rfl, rfl⟩) reached
      | gone => exact onGone_acts any reached
      | unrecognized => exact Keeps.pure reached

/-- The inferior changes its own registers; every other input takes actions. -/
theorem handle_acts (env : Env) (input : Input) (foreign : ∀ kernel, input ≠ .inferior kernel) :
    (acts env input.permits).Keeps (handle env input) := by
  cases input with
  | bytesRead bytes => exact onBytesRead_acts (fun _ => trivial) (fun _ => trivial) bytes
  | exception key type context =>
      exact Keeps.bind Keeps.read fun _ =>
        Keeps.ite (fun _ => onException_acts env key type context) fun _ => Keeps.pure
  | timeout index => exact onTimeout_acts (fun _ => trivial) index
  | queueStopNotification event timeout =>
      exact queueStopNotification_acts (fun _ => trivial) event timeout
  | inferior kernel => exact absurd rfl (foreign kernel)

/-- What every action stays within, and what the inferior does to itself, the
handling of an input stays within. -/
theorem handle_within {frame : Frame Server} (env : Env) {input : Input} (server : RspServer)
    (each : ∀ {before after}, Act env input.permits before after → frame.rel before after)
    (outside : ∀ kernel, input = .inferior kernel →
      frame.rel server.core { server.core with kernel := kernel }) :
    frame.rel server.core (handle env input server).2.core := by
  by_cases foreign : ∀ kernel, input ≠ .inferior kernel
  · exact steps_within each (handle_acts env input foreign server)
  · obtain ⟨kernel, rfl⟩ := not_forall_not.mp foreign
    exact outside kernel rfl

end RspServer

end Gdbserver
