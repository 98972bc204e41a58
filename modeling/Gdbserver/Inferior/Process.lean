import Gdbserver.Inferior.Thread

/-!
# The inferior process

`process.cc` and `ExceptionPort::Bind`/`Unbind`. The two overloads of
`Initialize` are `initializeProgram` and `initializePid`. `OnException` calls
back into the server and is modelled with it.
-/

set_option autoImplicit false

namespace Gdbserver

open Logic Prog

namespace Process

def setState (newState : ProcessState) : Prog Server Unit := do
  let before ← read (·.process.state)
  record (.moved before newState)
  modifyProcess fun process => { process with state := newState }

/-- The local `lp` becomes `launchpad_` only when every step succeeds. -/
def setupLaunchpad (env : Env) : Prog Server Bool := do
  if (← ask env .launchpadCreate) ≠ 0 then pure false
  else if (← ask env .launchpadSetArgs) ≠ 0 then pure false
  else if (← ask env .launchpadAddVdsoVmo) ≠ 0 then pure false
  else do
    modifyProcess fun process => { process with launchpad := true }
    pure true

def loadBinary (env : Env) : Prog Server Bool := do
  if (← ask env .launchpadElfLoad) ≠ 0 then pure false
  else if (← ask env .launchpadLoadVdso) ≠ 0 then pure false
  else pure true

def getProcessId (env : Env) : Prog Server Koid := do
  let (status, koid) ← ask env .processKoid
  if status ≠ 0 then pure 0 else pure koid

/-- The `fail` label of `Initialize()`. -/
def initializeFailed : Prog Server Bool := do
  modifyProcess fun process => { process with id := 0, launchpad := false }
  pure false

/-- The assertions and the switch both overloads of `Initialize` begin with. -/
def enterInitialize : Prog Server Unit := do
  let process ← read (·.process)
  dcheck .initializeLaunchpad !process.launchpad
  dcheck .initializeHandle (process.handle = 0)
  dcheck .initializeEportKey (process.eportKey = 0)
  if process.state = .gone then setState .new else pure ()

/-- `No program specified`: no arguments, or an empty first one. -/
def noProgram (argv : List Bytes) : Bool :=
  match argv with
  | [] => true
  | program :: _ => program.isEmpty

def readLaunchpad (env : Env) : Prog Server Bool := do
  let id ← getProcessId env
  modifyProcess fun process => { process with id := id }
  let (baseStatus, baseAddress) ← ask env .launchpadGetBaseAddress
  if baseStatus ≠ 0 then initializeFailed
  else do
    modifyProcess fun process => { process with baseAddress := baseAddress }
    let (entryStatus, entryAddress) ← ask env .launchpadGetEntryAddress
    if entryStatus ≠ 0 then initializeFailed
    else do
      modifyProcess fun process => { process with entryAddress := entryAddress }
      pure true

/-- `Initialize()`. -/
def initializeProgram (env : Env) : Prog Server Bool := do
  enterInitialize
  modifyProcess fun process => { process with attachedRunning := false }
  let argv ← read (·.process.argv)
  if noProgram argv then pure false
  else if !(← setupLaunchpad env) then pure false
  else if !(← loadBinary env) then initializeFailed
  else readLaunchpad env

/-- `Initialize(pid)`. -/
def initializePid (pid : Koid) : Prog Server Bool := do
  enterInitialize
  modifyProcess fun process => { process with attachedRunning := true, id := pid }
  pure true

def allocDebugHandle (env : Env) : Prog Server Bool := do
  let (status, handle) ← ask env .processDebugHandle
  if status ≠ 0 then pure false
  else if handle = 0 then pure false
  else do
    modifyProcess fun process => { process with handle := handle }
    pure true

def closeDebugHandle : Prog Server Unit :=
  modifyProcess fun process => { process with handle := 0 }

/-- `ExceptionPort::Bind`; 0 is failure. -/
def bind (env : Env) : Prog Server UInt64 := do
  let port ← read (·.exceptionPort)
  let nextKey := port.keyCounter + 1
  -- The counter has wrapped.
  if nextKey = 0 then pure 0
  else do
    let status ← ask env .bindExceptionPort
    if status < 0 then pure 0
    else do
      modify fun server =>
        { server with exceptionPort := ⟨port.keyCounter + 1, nextKey :: port.callbacks⟩ }
      pure nextKey

def bindExceptionPort (env : Env) : Prog Server Bool := do
  let key ← bind env
  if key = 0 then pure false
  else do
    modifyProcess fun process => { process with eportKey := key }
    pure true

/-- `ExceptionPort::Unbind` has an effect only on a key that is bound. -/
def unbindExceptionPort : Prog Server Unit := do
  modify fun server =>
    { server with
      exceptionPort := { server.exceptionPort with
        callbacks := server.exceptionPort.callbacks.erase server.process.eportKey } }
  modifyProcess fun process => { process with eportKey := 0 }

def attach (env : Env) : Prog Server Bool := do
  let process ← read (·.process)
  if process.isAttached then pure false
  else if !(← allocDebugHandle env) then pure false
  else if !(← bindExceptionPort env) then do
    closeDebugHandle
    pure false
  else if process.attachedRunning then do
    setState .running
    modifyProcess fun process => { process with threadMapStale := true }
    pure true
  else pure true

def rawDetach : Prog Server Unit := do
  let process ← read (·.process)
  dcheck .rawDetachHandle (process.handle ≠ 0)
  dcheck .rawDetachAttached process.isAttached
  unbindExceptionPort
  closeDebugHandle

def clear : Prog Server Unit := do
  let process ← read (·.process)
  dcheck .clearDetached !process.isAttached
  modifyProcess fun process =>
    { process with
      threads := process.threads.clear
      threadMapStale := false
      id := 0
      baseAddress := 0
      entryAddress := 0
      attachedRunning := false
      dsos := []
      dsosBuildFailed := false
      launchpad := false }
  setState .gone

def detach : Prog Server Bool := do
  let process ← read (·.process)
  if !process.isAttached then pure false
  else do
    rawDetach
    clear
    pure true

def start (env : Env) : Prog Server Bool := do
  let process ← read (·.process)
  dcheck .startLaunchpad process.launchpad
  dcheck .startHandle (process.handle ≠ 0)
  if process.state ≠ .new then pure false
  -- `launchpad_start` dereferences its argument
  else if !process.launchpad then stop
  else do
    let dupHandle ← ask env .launchpadStart
    modifyProcess fun process => { process with launchpad := false }
    if dupHandle < 0 then pure false
    else do
      setState .starting
      pure true

/-- Waiting for the process to die has no effect on the server. -/
def kill (env : Env) : Prog Server Bool := do
  let process ← read (·.process)
  if !process.isLive then pure true
  else do
    let status ← ask env .taskKill
    if status ≠ 0 then pure false
    else do
      unbindExceptionPort
      closeDebugHandle
      clear
      pure true

/-- `~Process`. -/
def destroy (env : Env) : Prog Server Unit := do
  let process ← read (·.process)
  if process.attachedRunning then do
    rawDetach
    clear
  else if !(← kill env) then do
    rawDetach
    clear
  else clear

def createThread : Prog Server Thread := do
  let object ← read (·.objects)
  modify fun server => { server with objects := object + 1 }
  pure ⟨object, .new, fun _ => 0, none, none⟩

/-- The loop that fills `new_threads`; a koid whose handle cannot be had is skipped. -/
def collectThreads (env : Env) : List Koid → ThreadMap → Prog Server ThreadMap
  | [], newThreads => pure newThreads
  | threadId :: rest, newThreads => do
      let status ← ask env (.threadHandle threadId)
      if status ≠ 0 then collectThreads env rest newThreads
      else do
        let thread ← createThread
        collectThreads env rest (newThreads.insert threadId thread)

def refreshAllThreads (env : Env) : Prog Server Bool := do
  let (countStatus, numThreads) ← ask env .threadCount
  if countStatus ≠ 0 then pure false
  else do
    let (status, records) ← ask env .threadKoids
    if status ≠ 0 then pure false
    else do
      -- the zeroed buffer is read up to the first call's count, however much is filled in
      let koids := (records ++ List.replicate numThreads 0).take numThreads
      let cleared ← read (·.process.threads.clear)
      let newThreads ← collectThreads env koids cleared
      modifyProcess fun process => { process with threads := newThreads, threadMapStale := false }
      pure true

def ensureThreadMapFresh (env : Env) : Prog Server Unit := do
  let stale ← read (·.process.threadMapStale)
  if stale then do
    let _ ← refreshAllThreads env
    pure ()
  else pure ()

/-- The key of the thread found, after adding it to the map if need be. -/
def findThreadById (env : Env) (threadId : Koid) : Prog Server (Option Koid) :=
  if threadId = 0 then pure none
  else do
    ensureThreadMapFresh env
    let found ← read (·.process.threads.find threadId)
    match found with
    | some thread => if thread.state = .gone then pure none else pure (some threadId)
    | none => do
        let status ← ask env (.threadHandle threadId)
        if status ≠ 0 then pure none
        else do
          let thread ← createThread
          modifyProcess fun process =>
            { process with threads := process.threads.insert threadId thread }
          pure (some threadId)

/-- `threads_.begin()`: whichever key comes first in the hash table. -/
def pickOneThread (env : Env) : Prog Server (Option Koid) := do
  ensureThreadMapFresh env
  let keys ← read (·.process.threads.keys)
  if keys = [] then pure none
  else do
    let bucket ← ask env .firstBucket
    pure (keys[bucket % keys.length]?)

def forEachLiveThread (env : Env) (callback : Koid → Prog Server Unit) : Prog Server Unit := do
  ensureThreadMapFresh env
  let keys ← read (·.process.threads.keys)
  forM keys fun tid => do
    let state ← read fun server => (server.thread tid).state
    if state ≠ .gone then callback tid else pure ()

def readMemory (env : Env) (address : UInt64) (length : Nat) : Prog Server (Option Bytes) := do
  let status ← ask env .readMemory
  if status ≠ 0 then pure none
  else
    read fun server => some ((List.range length).map fun index =>
      server.kernel.memory (address + index.toUInt64))

def storeBytes (memory : UInt64 → UInt8) (address : UInt64) (data : Bytes) : UInt64 → UInt8 :=
  fun location => (data[(location - address).toNat]?).getD (memory location)

def writeMemory (env : Env) (address : UInt64) (data : Bytes) : Prog Server Bool := do
  let handle ← read (·.process.handle)
  if handle = 0 then pure false
  else if data = [] then pure true
  else do
    let status ← ask env .writeMemory
    if status ≠ 0 then pure false
    else do
      modify fun server =>
        { server with
          kernel := { server.kernel with memory := storeBytes server.kernel.memory address data } }
      pure true

/-- The dynamic linker's breakpoint has been hit: fetch its list. -/
def fetchDsos (env : Env) : Prog Server Unit := do
  let dsos ← ask env .dsoFetchList
  modifyProcess fun process => { process with dsos := dsos, dsosBuildFailed := dsos.isEmpty }

def tryBuildLoadedDsosList (env : Env) (tid : Koid) : Prog Server Unit := do
  if (← ask env .debugAddress) ≠ 0 then pure ()
  else
    match ← ask env .readRDebug with
    | none => pure ()
    | some debug =>
        if debug.version = 0 then pure ()
        else do
          let _ ← Registers.refreshGeneralRegisters env tid
          let pc ← Registers.getPC env tid
          if pc - 1 ≠ debug.brk then pure () else fetchDsos env

def exitCode (env : Env) : Prog Server Int := do
  let (status, returnCode) ← ask env .processInfo
  if status = 0 then pure returnCode else pure (-1)

end Process

namespace Server

/-- `SetCurrentThread`; `none` resets the weak pointer. -/
def setCurrentThread (tid : Option Koid) : Prog Server Unit :=
  modify fun server => { server with currentThread := tid.map fun key => (server.thread key).object }

end Server

end Gdbserver
