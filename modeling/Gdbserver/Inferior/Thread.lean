import Gdbserver.Inferior.Arch
import Gdbserver.Inferior.State

/-!
# Threads of the inferior

`thread.cc`, with the register cache and the single-step breakpoint a thread
owns. Threads are addressed by their key in the thread map. A thread's handle is
closed by `ResumeForExit`; what the kernel then answers is left open, as for
every other call.
-/

set_option autoImplicit false

namespace Gdbserver

open Logic Prog

namespace Registers

def refreshGeneralRegisters (env : Env) (tid : Koid) : Prog Server Bool :=
  match env.arch with
  | .other => pure false
  | .amd64 | .arm64 => do
      let state ← read fun server => (server.thread tid).state
      -- All zeros are reported for a thread that was just created.
      if state = .new then do
        modifyThread tid fun thread => { thread with gregs := fun _ => 0 }
        pure true
      else do
        let status ← ask env (.threadReadState tid)
        if status < 0 then pure false
        else do
          let gregs ← read fun server => server.kernel.registers tid
          modifyThread tid fun thread => { thread with gregs := gregs }
          pure true

def writeGeneralRegisters (env : Env) (tid : Koid) : Prog Server Bool :=
  match env.arch with
  | .other => pure false
  | .amd64 | .arm64 => do
      let status ← ask env (.threadWriteState tid)
      if status < 0 then pure false
      else do
        modify fun server =>
          { server with
            kernel := { server.kernel with
              registers :=
                Function.update server.kernel.registers tid (server.thread tid).gregs } }
        pure true

/-- `GetIntRegister`: the variable stays as it was when there is no such register. -/
def getIntRegister (env : Env) (tid : Koid) (regno : Int) : Prog Server UInt64 := do
  let gregs ← read fun server => (server.thread tid).gregs
  match getRegister env.arch gregs regno with
  | some value => pure value
  | none => do
      let stack ← ask env .uninitialized
      pure (stack 0)

def getPC (env : Env) (tid : Koid) : Prog Server UInt64 :=
  getIntRegister env tid env.arch.getPCRegisterNumber

end Registers

namespace Thread

def updateRegisters (tid : Koid) (update : RegisterSet → Option RegisterSet) : Prog Server Bool := do
  let gregs ← read fun server => (server.thread tid).gregs
  match update gregs with
  | none => pure false
  | some updated => do
      modifyThread tid fun thread => { thread with gregs := updated }
      pure true

def setRflagsTF (env : Env) (tid : Koid) (enable : Bool) : Prog Server Bool := do
  if !(← Registers.refreshGeneralRegisters env tid) then pure false
  else if !(← updateRegisters tid fun gregs => Registers.setSingleStep env.arch gregs enable) then
    pure false
  else Registers.writeGeneralRegisters env tid

def insertSingleStepBreakpoint (env : Env) (tid : Koid) (address : UInt64) : Prog Server Bool := do
  let present ← read fun server => (server.thread tid).singleStepBreakpoint
  if present.isSome then pure false
  else
    match env.arch with
    | .amd64 => do
        if !(← setRflagsTF env tid true) then pure false
        else do
          modifyThread tid fun thread => { thread with singleStepBreakpoint := some address }
          pure true
    | .arm64 | .other => pure false

/-- `~SingleStepBreakpoint`: the flag is cleared if the kernel lets it. -/
def destroySingleStepBreakpoint (env : Env) (tid : Koid) : Prog Server Unit :=
  match env.arch with
  | .amd64 => do
      let _ ← setRflagsTF env tid false
      pure ()
  | .arm64 | .other => pure ()

def removeSingleStepBreakpoint (env : Env) (tid : Koid) : Prog Server Bool := do
  let present ← read fun server => (server.thread tid).singleStepBreakpoint
  if present.isNone then pure false
  else do
    destroySingleStepBreakpoint env tid
    modifyThread tid fun thread => { thread with singleStepBreakpoint := none }
    pure true

def getGdbSignal (arch : Arch) (thread : Thread) : GdbSignal :=
  match thread.exceptionContext with
  | none => .unsupported
  | some context => arch.computeGdbSignal context

def setState (tid : Koid) (state : ThreadState) : Prog Server Unit :=
  modifyThread tid fun thread => { thread with state := state }

def onException (env : Env) (tid : Koid) (type : ExceptionType) (context : ExceptionContext) :
    Prog Server Unit := do
  modifyThread tid fun thread => { thread with exceptionContext := some context }
  let previous ← read fun server => (server.thread tid).state
  setState tid .stopped
  if previous = .stepping ∧ type ≠ .threadExiting then do
    let _ ← removeSingleStepBreakpoint env tid
    pure ()
  else pure ()

def resume (env : Env) (tid : Koid) : Prog Server Bool := do
  record (.resume tid)
  let state ← read fun server => (server.thread tid).state
  if state ≠ .stopped ∧ state ≠ .new then pure false
  else do
    let status ← ask env (.taskResume tid)
    if status < 0 then pure false
    else do
      setState tid .running
      pure true

def resumeForExit (env : Env) (tid : Koid) : Prog Server Unit := do
  -- the status only decides what is logged
  let _ ← ask env (.taskResume tid)
  setState tid .gone

def step (env : Env) (tid : Koid) : Prog Server Bool := do
  record (.step tid)
  let state ← read fun server => (server.thread tid).state
  if state ≠ .stopped then pure false
  else if !(← Registers.refreshGeneralRegisters env tid) then pure false
  else do
    let pc ← Registers.getPC env tid
    if !(← insertSingleStepBreakpoint env tid pc) then pure false
    else do
      let status ← ask env (.taskResume tid)
      if status < 0 then do
        let _ ← removeSingleStepBreakpoint env tid
        pure false
      else do
        setState tid .stepping
        pure true

end Thread

end Gdbserver
