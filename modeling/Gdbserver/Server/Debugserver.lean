import Gdbserver.Logic.Runs
import Gdbserver.Server.Exceptions
import Mathlib.Algebra.Order.BigOperators.Group.List
import Mathlib.Algebra.Order.Group.Nat

/-!
# Debugserver from start-up to exit

`main.cc` and `RspServer::Run`. The message loop takes the inputs one by one;
it may be left after any of them, which runs the destructors.
-/

set_option autoImplicit false

namespace Gdbserver

open Logic Prog

/-- What the message loop may be handed next. `inferior` is the program under
debug changing its own registers and memory. -/
inductive Input where
  | bytesRead (bytes : Bytes)
  | exception (key : UInt64) (type : ExceptionType) (context : ExceptionContext)
  | timeout (index : Nat)
  | queueStopNotification (event : Bytes) (timeout : Nat)
  | inferior (kernel : Kernel)

namespace RspServer

/-- A delayed task is run once; the loop decides which one is due. -/
def onTimeout (index : Nat) : Prog RspServer Unit := do
  match (← read (·.delayedTasks))[index]? with
  | none => pure ()
  | some task => do
      modify fun server => { server with delayedTasks := server.delayedTasks.eraseIdx index }
      timeoutHandler task

def handle (env : Env) : Input → Prog RspServer Unit
  | .bytesRead bytes => onBytesRead env bytes
  | .exception key type context => dispatchException env key type context
  | .timeout index => onTimeout index
  | .queueStopNotification event timeout => queueStopNotification env event timeout
  | .inferior kernel => onServer (modify fun server => { server with kernel := kernel })

end RspServer

/-- The command line: `attachPid` is 0 without `--attach`. `kernel` is what the
machine holds before the server looks at it. -/
structure Config where
  attachPid : Koid
  argv : List Bytes
  kernel : Kernel

namespace Debugserver

def noThread : Thread := ⟨0, .new, fun _ => 0, none, none⟩

def newProcess : Process :=
  { argv := []
    launchpad := false
    handle := 0
    state := .new
    id := 0
    baseAddress := 0
    entryAddress := 0
    eportKey := 0
    attachedRunning := false
    threads := ⟨[], List.nodup_nil, fun _ => noThread⟩
    threadMapStale := false
    dsos := []
    dsosBuildFailed := false
    breakpoints := ∅ }

def newServer (config : Config) : Server :=
  { hasProcess := false
    process := newProcess
    currentThread := none
    exceptionPort := ⟨0, []⟩
    inThreadInfoSequence := false
    minLogLevel := 0
    runStatus := true
    kernel := config.kernel
    calls := fun _ => 0
    objects := 1
    posted := []
    log := [] }

def newRspServer (config : Config) : RspServer := ⟨newServer config, [], none, [], 0, []⟩

def setUpInferior (config : Config) : Prog Server Bool :=
  if config.attachPid ≠ 0 then Process.initializePid config.attachPid
  else do
    modifyProcess fun process => { process with argv := config.argv }
    pure true

/-- `RspServer::Run` up to the main loop. -/
def connect (env : Env) : Prog Server Bool := do
  if (← ask env .portCreate) < 0 then pure false
  else if ← read (·.process.attachedRunning) then do
    if !(← Process.attach env) then pure false else ask env .listen
  else ask env .listen

/-- `main` up to the main loop; `false` leaves the program with an error. -/
def startUp (env : Env) (config : Config) : Prog Server Bool := do
  if !(← setUpInferior config) then pure false
  else do
    modify fun server => { server with hasProcess := true }
    connect env

/-- A whole run of the program. With both a pid and a program `main` returns
before the server owns the inferior, which is then never destroyed. -/
def debugserver (env : Env) (config : Config) (inputs : List Input) : Prog RspServer Bool :=
  if config.attachPid ≠ 0 ∧ config.argv ≠ [] then pure false
  else do
    if !(← RspServer.onServer (startUp env config)) then do
      RspServer.onServer (Process.destroy env)
      pure false
    else do
      run (RspServer.handle env) inputs
      RspServer.onServer (Process.destroy env)
      read (·.core.runStatus)

/-! An environment to run the program in: every call succeeds, there is one
thread, and the heap hands out an address again as soon as it is free. -/

def thriftyHeap : Allocator where
  address inUse _ := inUse.sum + 1
  fresh _ _ member := Nat.not_succ_le_self _ (List.le_sum_of_mem member)

def obligingAnswer : (call : Call) → Nat → call.Answer
  | .processKoid, _ => (0, 77)
  | .processDebugHandle, _ => (0, 5)
  | .launchpadGetBaseAddress, _ | .launchpadGetEntryAddress, _ => (0, 4096)
  | .threadCount, _ => (0, 1)
  | .threadKoids, _ => (0, [9])
  | .processInfo, _ => (0, 0)
  | .listen, _ => true
  | .portCreate, _ | .bindExceptionPort, _ | .taskKill, _ | .launchpadCreate, _
  | .launchpadSetArgs, _ | .launchpadAddVdsoVmo, _ | .launchpadElfLoad, _ | .launchpadLoadVdso, _
  | .launchpadStart, _ | .threadHandle _, _ | .threadReadState _, _ | .threadWriteState _, _
  | .taskResume _, _ | .readMemory, _ | .writeMemory, _ | .debugAddress, _ => (0 : Int)
  | .readRDebug, _ => none
  | .dsoFetchList, _ => []
  | .firstBucket, _ => (0 : Nat)
  | .uninitialized, _ => fun _ => 0

def obliging : Env := ⟨.amd64, Ftl.standard, obligingAnswer, thriftyHeap⟩

def program : Config := ⟨0, [ascii "/bin/program"], ⟨fun _ _ => 0, fun _ => 0⟩⟩

/-- The program is run up to the start of its first thread. -/
def untilFirstThread : List Input :=
  [.bytesRead (ascii "$vRun;#e6"), .exception 1 .threadStarting ⟨9, 0, 0⟩]

end Debugserver

end Gdbserver
