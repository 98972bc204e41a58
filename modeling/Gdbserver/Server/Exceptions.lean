import Gdbserver.Server.RspServer

/-!
# Exceptions of the inferior

`Process::OnException` and the delegate calls it makes back into the server.
Where the source uses a thread that was not found, the process ends.
-/

set_option autoImplicit false

namespace Gdbserver

open Logic Prog

namespace RspServer

def queueStopReply (env : Env) (stopReply : StopReplyPacket) : Prog RspServer Unit :=
  queueStopNotification env stopReply.build kDefaultTimeoutSeconds

def threadStartingReply (env : Env) (processId tid : Koid) : StopReplyPacket :=
  (((StopReplyPacket.ofType .receivedSignal).setSignalNumber 5).setThreadId env.ftl processId
    tid).setStopReason (ascii "create")

/-- The first thread completes a `vRun`, which is answered synchronously. -/
def onThreadStarting (env : Env) (context : ExceptionContext) : Prog RspServer Unit := do
  let process ← read (·.core.process)
  let stopReply := threadStartingReply env process.id context.tid
  match process.state with
  | .starting => onServer do
      postPacketWriteTask stopReply.build
      Process.setState .running
  | .running => queueStopReply env stopReply
  | .new | .gone => pure ()

def threadExitingReply (env : Env) (processId tid : Koid) : StopReplyPacket :=
  ((StopReplyPacket.ofType .threadExited).setSignalNumber 0).setThreadId env.ftl processId tid

def onThreadExiting (env : Env) (tid : Koid) : Prog RspServer Unit := do
  let processId ← read (·.core.process.id)
  queueStopReply env (threadExitingReply env processId tid)
  onServer (Thread.resumeForExit env tid)

/-- The exit code is cut down to the byte `SetSignalNumber` takes. -/
def processExitReply (exitCode : Int) : StopReplyPacket :=
  (StopReplyPacket.ofType .processExited).setSignalNumber (UInt8.ofInt exitCode)

def onProcessExit (env : Env) : Prog RspServer Unit := do
  onServer (Server.setCurrentThread none)
  let exitCode ← onServer (Process.exitCode env)
  queueStopReply env (processExitReply exitCode)

def addRegister (arch : Arch) (gregs : RegisterSet) (stopReply : StopReplyPacket) (regno : Int) :
    StopReplyPacket :=
  stopReply.addRegisterValue (UInt8.ofInt regno) (Registers.getRegisterAsString arch gregs regno)

def archExceptionReply (env : Env) (signal : GdbSignal) (processId tid : Koid)
    (gregs : Option RegisterSet) : StopReplyPacket :=
  let stopReply :=
    ((StopReplyPacket.ofType .receivedSignal).setSignalNumber (UInt8.ofInt signal.number)).setThreadId
      env.ftl processId tid
  match gregs with
  | none => stopReply
  | some gregs =>
      [env.arch.getFPRegisterNumber, env.arch.getSPRegisterNumber,
        env.arch.getPCRegisterNumber].foldl (addRegister env.arch gregs) stopReply

def refreshedRegisters (env : Env) (tid : Koid) : Prog Server (Option RegisterSet) := do
  if ← Registers.refreshGeneralRegisters env tid then
    read fun server => some (server.thread tid).gregs
  else pure none

def onArchitecturalException (env : Env) (tid : Koid) (context : ExceptionContext) :
    Prog RspServer Unit := do
  let signal ← read fun server => Thread.getGdbSignal env.arch (server.core.thread tid)
  if signal = .unsupported then pure ()
  else do
    let processId ← read (·.core.process.id)
    let gregs ← onServer (refreshedRegisters env tid)
    queueStopReply env (archExceptionReply env signal processId context.tid gregs)

/-- The list of shared objects is fetched at the dynamic linker's breakpoint. -/
def watchDynamicLinker (env : Env) (tid : Koid) (type : ExceptionType) : Prog Server Unit := do
  let process ← read (·.process)
  if type = .swBreakpoint ∧ !process.dsosLoaded ∧ !process.dsosBuildFailed then
    Process.tryBuildLoadedDsosList env tid
  else pure ()

def exceptionThread (env : Env) (tid : Koid) : Prog Server (Option Koid) :=
  if tid ≠ 0 then Process.findThreadById env tid else pure none

/-- The process is gone: it is reported before it is detached from. -/
def onGone (env : Env) : Prog RspServer Unit := do
  onServer (Process.setState .gone)
  onProcessExit env
  if ← onServer Process.detach then pure () else onServer Process.clear

def onArchException (env : Env) (tid : Koid) (type : ExceptionType) (context : ExceptionContext) :
    Prog RspServer Unit := do
  onServer (watchDynamicLinker env tid type)
  onServer (Thread.onException env tid type context)
  onArchitecturalException env tid context

def onException (env : Env) (type : ExceptionType) (context : ExceptionContext) :
    Prog RspServer Unit := do
  let thread ← onServer (exceptionThread env context.tid)
  if type.isArch then
    match thread with
    | none => stop
    | some tid => onArchException env tid type context
  else
    match type, thread with
    | .threadStarting, some tid => do
        onServer (Thread.onException env tid type context)
        onThreadStarting env context
    | .gone, _ => onGone env
    | .threadExiting, some tid => do
        onServer (Thread.onException env tid type context)
        onThreadExiting env tid
    | .threadStarting, none | .threadExiting, none => stop
    | _, _ => pure ()

/-- The task the exception port posts: a key without a callback is ignored. -/
def dispatchException (env : Env) (key : UInt64) (type : ExceptionType)
    (context : ExceptionContext) : Prog RspServer Unit := do
  if key ∈ (← read (·.core.exceptionPort.callbacks)) then onException env type context
  else pure ()

end RspServer

end Gdbserver
