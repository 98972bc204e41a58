import Gdbserver.Inferior.Kernel
import Gdbserver.Logic.Prog
import Mathlib.Data.List.AList

/-!
# State of the server and its inferior

The members of `Thread`, `Process`, `ExceptionPort`, `Server` and
`CommandHandler`, and the two logs the properties are stated about: what has
been handed to the message loop, and which events worth observing took place.
-/

set_option autoImplicit false

namespace Gdbserver

open Logic

inductive ThreadState where
  | new
  | stopped
  | running
  | stepping
  | exiting
  | gone
  deriving DecidableEq

/-- A `Thread` object. `object` tells apart two objects created for one koid;
weak pointers refer to it. -/
structure Thread where
  object : Nat
  state : ThreadState
  gregs : RegisterSet
  singleStepBreakpoint : Option UInt64
  exceptionContext : Option ExceptionContext

def Thread.isLive (thread : Thread) : Bool :=
  match thread.state with
  | .new | .stopped | .running | .stepping => true
  | .exiting | .gone => false

/-- `std::unordered_map<mx_koid_t, std::unique_ptr<Thread>>`: the keys in
iteration order, and the object stored under each of them. -/
structure ThreadMap where
  keys : List Koid
  nodup : keys.Nodup
  thread : Koid → Thread

namespace ThreadMap

def clear (threads : ThreadMap) : ThreadMap := ⟨[], List.nodup_nil, threads.thread⟩

def find (threads : ThreadMap) (tid : Koid) : Option Thread :=
  if tid ∈ threads.keys then some (threads.thread tid) else none

def set (threads : ThreadMap) (tid : Koid) (thread : Thread) : ThreadMap :=
  { threads with thread := Function.update threads.thread tid thread }

/-- `threads_[tid] = thread`, whether or not the key is there. -/
def insert (threads : ThreadMap) (tid : Koid) (thread : Thread) : ThreadMap :=
  if member : tid ∈ threads.keys then threads.set tid thread
  else
    { keys := threads.keys ++ [tid]
      nodup := by
        rw [List.nodup_append]
        refine ⟨threads.nodup, by simp, ?_⟩
        intro key present other singleton same
        have equal : other = tid := by simpa using singleton
        exact member (by rw [← equal, ← same]; exact present)
      thread := Function.update threads.thread tid thread }

end ThreadMap

/-- A `SoftwareBreakpoint`. The bytes it has replaced are there while it is inserted. -/
structure SoftwareBreakpoint where
  address : UInt64
  kind : UInt64
  originalBytes : Bytes
  deriving DecidableEq

/-- `ProcessBreakpointSet::breakpoints_`. -/
abbrev BreakpointMap := AList fun _ : UInt64 => SoftwareBreakpoint

inductive ProcessState where
  | new
  | starting
  | running
  | gone
  deriving DecidableEq

/-- The members of `Process`. `launchpad` says whether `launchpad_` is set. -/
structure Process where
  argv : List Bytes
  launchpad : Bool
  handle : Handle
  state : ProcessState
  id : Koid
  baseAddress : UInt64
  entryAddress : UInt64
  eportKey : UInt64
  attachedRunning : Bool
  threads : ThreadMap
  threadMapStale : Bool
  dsos : List Dso
  dsosBuildFailed : Bool
  breakpoints : BreakpointMap

namespace Process

def isLive (process : Process) : Bool := process.state ≠ .new ∧ process.state ≠ .gone

def isAttached (process : Process) : Bool := process.eportKey ≠ 0

def dsosLoaded (process : Process) : Bool := process.dsos ≠ []

/-- `dso_get_main_exec`. -/
def getExecDso (process : Process) : Option Dso := process.dsos.find? (·.isMainExec)

end Process

/-- The key counter and the keys with a registered callback. The one callback
ever registered is `Process::OnException` of the current process. -/
structure ExceptionPort where
  keyCounter : UInt64
  callbacks : List UInt64

/-- The assertions that the properties below are about. -/
inductive Check where
  | initializeLaunchpad
  | initializeHandle
  | initializeEportKey
  | rawDetachHandle
  | rawDetachAttached
  | clearDetached
  | startLaunchpad
  | startHandle
  | extractParametersNonempty
  | entryPid
  | vContLive
  | vContAttached
  | continueAtNotLive
  | continueNotLive
  deriving DecidableEq

/-- Observations: a failed `FTL_DCHECK`, a change of `state_`, and the calls
that ask a thread to run. -/
inductive Event where
  | violated (check : Check)
  | moved (before after : ProcessState)
  | resume (tid : Koid)
  | step (tid : Koid)
  deriving DecidableEq

/-- What has been handed to the message loops: an acknowledgment byte, a
payload for `PostWriteTask`, or the request to quit. -/
inductive Post where
  | ack (verified : Bool)
  | write (isNotification : Bool) (data : Bytes)
  | quit
  deriving DecidableEq

/-- The state behind the command handler. `calls` counts how often each outside
call has been made, `objects` the threads created so far. -/
structure Server where
  hasProcess : Bool
  process : Process
  currentThread : Option Nat
  exceptionPort : ExceptionPort
  inThreadInfoSequence : Bool
  minLogLevel : Int32
  runStatus : Bool
  kernel : Kernel
  calls : Call → Nat
  objects : Nat
  posted : List Post
  log : List Event

namespace Server

/-- `WeakPtr<Thread>::get`: the thread of the map that is still that object. -/
def currentThreadId (server : Server) : Option Koid :=
  match server.currentThread with
  | none => none
  | some object =>
      server.process.threads.keys.find? fun tid =>
        (server.process.threads.thread tid).object = object

def thread (server : Server) (tid : Koid) : Thread := server.process.threads.thread tid

def setProcess (server : Server) (process : Process) : Server := { server with process := process }

def setThread (server : Server) (tid : Koid) (thread : Thread) : Server :=
  { server with
    process := { server.process with threads := server.process.threads.set tid thread } }

def observe (server : Server) (events : List Event) : Server :=
  { server with log := server.log ++ events }

def asked (server : Server) (call : Call) : Server :=
  { server with calls := Function.update server.calls call (server.calls call + 1) }

end Server

def Env.now (env : Env) (call : Call) (server : Server) : call.Answer :=
  env.answer call (server.calls call)

/-- Ask the environment; the same call gets its next answer the next time. -/
def ask (env : Env) (call : Call) : Prog Server call.Answer := fun server =>
  (some (env.now call server), server.asked call)

theorem ask_bind {α : Type} (env : Env) (call : Call) (next : call.Answer → Prog Server α)
    (server : Server) :
    (ask env call >>= next) server = next (env.now call server) (server.asked call) := rfl

theorem Server.asked_calls (server : Server) {call other : Call} (differ : other ≠ call) :
    (server.asked call).calls other = server.calls other := Function.update_of_ne differ _ _

theorem Server.asked_calls_self (server : Server) (call : Call) :
    (server.asked call).calls call = server.calls call + 1 := Function.update_self ..

theorem Server.calls_le_asked (server : Server) (call other : Call) :
    server.calls other ≤ (server.asked call).calls other := by
  by_cases same : other = call
  · rw [same, server.asked_calls_self]
    exact Nat.le_succ _
  · exact Nat.le_of_eq (server.asked_calls same).symm

theorem Env.now_asked (env : Env) {call other : Call} (differ : other ≠ call) (server : Server) :
    env.now other (server.asked call) = env.now other server := by
  rw [Env.now, Env.now, server.asked_calls differ]

def record (event : Event) : Prog Server Unit :=
  Prog.modify fun server => { server with log := server.log ++ [event] }

/-- An assertion of the source: execution goes on, a failure is recorded. -/
def dcheck (check : Check) (condition : Bool) : Prog Server Unit :=
  if condition then pure () else record (.violated check)

def modifyProcess (update : Process → Process) : Prog Server Unit :=
  Prog.modify fun server => server.setProcess (update server.process)

def modifyThread (tid : Koid) (update : Thread → Thread) : Prog Server Unit :=
  Prog.modify fun server => server.setThread tid (update (server.thread tid))

end Gdbserver
