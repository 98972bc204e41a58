import Gdbserver.Ipt.BufferDump
import Gdbserver.Logic.Ledger
import Gdbserver.Server.Exceptions

/-!
# Tracing threads

`IptServer` of `bin/ipt/server.cc` while an inferior runs, and the functions of
`control.cc` it calls for a thread. The buffer of a thread is a member of its
object, which the constructor does not set. Which descriptors are out, and to whom,
is read off the calls made to the device.
-/

set_option autoImplicit false

namespace Gdbserver.Ipt

open Logic Prog

/-- The device calls that are made for a thread, with the descriptor passed or
returned. `dump` stands for the three queries of `WriteBufferData`. -/
inductive Ioctl where
  | allocBuffer (object : Nat) (descriptor : UInt32)
  | assignBufferThread (object : Nat) (descriptor : UInt32)
  | releaseBufferThread (object : Nat) (descriptor : UInt32)
  | dump (object : Nat) (descriptor : UInt32)
  | freeBuffer (object : Nat) (descriptor : UInt32)
  deriving DecidableEq, Repr

/-- A descriptor is given back with the call that frees it, whether that succeeds or not. -/
def Ioctl.deed : Ioctl → Deed UInt32 Nat
  | .allocBuffer object descriptor => .acquire descriptor object
  | .assignBufferThread object descriptor => .use descriptor object
  | .releaseBufferThread object descriptor => .use descriptor object
  | .dump object descriptor => .use descriptor object
  | .freeBuffer object descriptor => .release descriptor object

/-- The answers of the device and of `mx_handle_duplicate`, by the number of calls
made before. A descriptor that is out is not returned again. -/
structure Device where
  opens : Nat → Bool
  allocBuffer : BufferConfig → List UInt32 → Nat → Option UInt32
  fresh : ∀ config out time descriptor,
    allocBuffer config out time = some descriptor → descriptor ∉ out
  duplicates : Nat → Bool
  succeeds : Nat → Bool
  dumpIo : Nat → DumpIo

/-- `iptBuffer` is `ipt_buffer_` of every thread object; -1 stands for none. -/
structure IptServer where
  core : Server
  iptBuffer : Nat → Int32
  ioctls : List Ioctl
  calls : Nat
  files : List (Bytes × Dump)

namespace IptServer

/-- Nothing has been traced, and the buffers of thread objects are what is in memory. -/
def new (core : Server) (memory : Nat → Int32) : IptServer := ⟨core, memory, [], 0, []⟩

def deeds (server : IptServer) : List (Deed UInt32 Nat) := server.ioctls.map Ioctl.deed

def onServer {α : Type} (inner : Prog Server α) : Prog IptServer α :=
  zoom IptServer.core (fun core server => { server with core := core }) inner

def consult {α : Type} (answer : Nat → α) : Prog IptServer α := fun server =>
  (some (answer server.calls), { server with calls := server.calls + 1 })

def issue (call : Ioctl) : Prog IptServer Unit :=
  modify fun server => { server with ioctls := server.ioctls ++ [call] }

def setIptBuffer (object : Nat) (buffer : Int32) : Prog IptServer Unit :=
  modify fun server =>
    { server with iptBuffer := Function.update server.iptBuffer object buffer }

def openDevices (device : Device) : Prog IptServer Bool := consult device.opens

def initThreadPerf (device : Device) (config : IptConfig) (object : Nat) :
    Prog IptServer Bool := do
  if !(← openDevices device) then pure false
  else do
    let out ← read fun server => Ledger.held server.deeds
    match ← consult (device.allocBuffer (initIptBufferConfig config) out) with
    | none => pure false
    | some descriptor => do
        issue (.allocBuffer object descriptor)
        setIptBuffer object descriptor.toInt32
        pure true

/-- The part `StartThreadPerf` and `StopThreadPerf` share: a call with a duplicate of the
thread's handle. -/
def callForThread (device : Device) (call : Ioctl) : Prog IptServer Bool := do
  if !(← openDevices device) then pure false
  else if !(← consult device.duplicates) then pure false
  else do
    issue call
    consult device.succeeds

def startThreadPerf (device : Device) (object : Nat) : Prog IptServer Bool := do
  let buffer ← read (·.iptBuffer object)
  -- no buffer is no error
  if buffer < 0 then pure true
  else callForThread device (.assignBufferThread object buffer.toUInt32)

def stopThreadPerf (device : Device) (object : Nat) : Prog IptServer Unit := do
  let buffer ← read (·.iptBuffer object)
  if buffer < 0 then pure ()
  else do
    let _ ← callForThread device (.releaseBufferThread object buffer.toUInt32)
    pure ()

def dumpThreadPerf (device : Device) (config : IptConfig) (tid : Koid) (object : Nat) :
    Prog IptServer Unit := do
  let buffer ← read (·.iptBuffer object)
  if buffer < 0 then pure ()
  else if !(← openDevices device) then pure ()
  else do
    issue (.dump object buffer.toUInt32)
    -- the status only decides what is logged
    let io ← consult device.dumpIo
    modify fun server =>
      { server with files := server.files ++ [(ptFileName config tid, writeBufferData io)] }

def resetThreadPerf (device : Device) (object : Nat) : Prog IptServer Unit := do
  let buffer ← read (·.iptBuffer object)
  if buffer < 0 then pure ()
  else if !(← openDevices device) then pure ()
  else do
    issue (.freeBuffer object buffer.toUInt32)
    let _ ← consult device.succeeds
    setIptBuffer object (-1)

/-- What `OnThreadStarting` does before the thread is resumed. -/
def traceThread (device : Device) (config : IptConfig) (object : Nat) : Prog IptServer Unit := do
  if config.mode = .threads then do
    if !(← initThreadPerf device config object) then pure ()
    else if !(← startThreadPerf device object) then resetThreadPerf device object
    else pure ()
  else pure ()

def onThreadStarting (env : Env) (device : Device) (config : IptConfig) (tid : Koid) :
    Prog IptServer Unit := do
  let object ← read fun server => (server.core.thread tid).object
  traceThread device config object
  let _ ← onServer (Thread.resume env tid)
  pure ()

/-- What `OnThreadExiting` does with the trace that has been collected. -/
def collectTrace (device : Device) (config : IptConfig) (tid : Koid) (object : Nat) :
    Prog IptServer Unit := do
  let buffer ← read (·.iptBuffer object)
  if config.mode = .threads ∧ 0 ≤ buffer then do
    stopThreadPerf device object
    dumpThreadPerf device config tid object
    resetThreadPerf device object
  else pure ()

def onThreadExiting (env : Env) (device : Device) (config : IptConfig) (tid : Koid) :
    Prog IptServer Unit := do
  let object ← read fun server => (server.core.thread tid).object
  collectTrace device config tid object
  onServer (Thread.resumeForExit env tid)

def quitMessageLoop (status : Bool) : Prog Server Unit :=
  modify fun server => { server with runStatus := status, posted := server.posted ++ [.quit] }

def onProcessExit : Prog Server Unit := do
  Server.setCurrentThread none
  quitMessageLoop true

def onGone : Prog Server Unit := do
  Process.setState .gone
  onProcessExit
  if ← Process.detach then pure () else Process.clear

def onArchException (env : Env) (tid : Koid) (type : ExceptionType) (context : ExceptionContext) :
    Prog Server Unit := do
  RspServer.watchDynamicLinker env tid type
  Thread.onException env tid type context
  quitMessageLoop true

/-- `Process::OnException` with this server as the delegate. -/
def onException (env : Env) (device : Device) (config : IptConfig)
    (exception : ExceptionType × ExceptionContext) : Prog IptServer Unit := do
  let (type, context) := exception
  let thread ← onServer (RspServer.exceptionThread env context.tid)
  if type.isArch then
    match thread with
    | none => stop
    | some tid => onServer (onArchException env tid type context)
  else
    match type, thread with
    | .threadStarting, some tid => do
        onServer (Thread.onException env tid type context)
        onThreadStarting env device config tid
    | .gone, _ => onServer onGone
    | .threadExiting, some tid => do
        onServer (Thread.onException env tid type context)
        onThreadExiting env device config tid
    | .threadStarting, none | .threadExiting, none => stop
    | _, _ => pure ()

/-- Every descriptor passed to the device for a thread has been allocated for that thread
and not been freed since. -/
def OwnDescriptors (server : IptServer) : Prop := Ledger.Lawful server.deeds

end IptServer

end Gdbserver.Ipt
