import Gdbserver.Ipt.BufferOwnership
import Gdbserver.Ipt.Control

/-!
# A traced program

`IptServer::Run` of `bin/ipt/server.cc`: the inferior is started, the message loop
handles exceptions until it is left, and what has been collected is dumped. The devices
are followed through all of it.
-/

set_option autoImplicit false

namespace Gdbserver.Ipt

open Logic Prog

structure Session where
  server : IptServer
  control : Control

namespace Session

def onIptServer {α : Type} (inner : Prog IptServer α) : Prog Session α :=
  zoom Session.server (fun server session => { session with server := server }) inner

def onServer {α : Type} (inner : Prog Server α) : Prog Session α :=
  onIptServer (IptServer.onServer inner)

def onControl {α : Type} (inner : Prog Control α) : Prog Session α :=
  zoom Session.control (fun control session => { session with control := control }) inner

variable (env : Env) (device : Device) (io : ControlIo) (config : IptConfig)

/-- What is done only if cpus are traced. -/
def forCpus {α : Type} (otherwise : α) (program : Prog Control α) : Prog Session α :=
  if config.mode = .cpus then onControl program else pure otherwise

def prepare : Prog Session Bool := do
  if !(← onControl (Control.setPerfMode io config)) then pure false
  else if !(← forCpus config true (Control.initCpuPerf io config)) then pure false
  else onControl (Control.initPerfPreProcess io)

def setUp : Prog Session Bool := do
  let _ ← onControl (Control.call io .launch)
  if !(← onServer (Process.initializeProgram env)) then pure false
  else onServer (Process.attach env)

def startInferior : Prog Session Bool := do
  if !(← prepare io config) then pure false
  else if !(← setUp env io) then pure false
  else if !(← forCpus config true (Control.startCpuPerf io)) then do
    onControl (Control.resetPerf io)
    pure false
  else onServer (Process.start env)

def dumpResults (fuel : Nat) : Prog Session Bool := do
  forCpus config () (Control.stopCpuPerf io)
  onControl (Control.stopPerf io)
  forCpus config () (Control.dumpCpuPerf io config)
  onControl (Control.dumpPerf io config fuel)
  forCpus config () (Control.resetCpuPerf io)
  onControl (Control.resetPerf io)
  pure true

/-- The message loop is left after any exceptions. -/
def run (fuel : Nat) (exceptions : List (ExceptionType × ExceptionContext)) :
    Prog Session Bool := do
  if (← onServer (ask env .portCreate)) < 0 then pure false
  else if !(← startInferior env io config) then pure false
  else do
    Logic.run (fun exception => onIptServer (IptServer.onException env device config exception))
      exceptions
    if !(← dumpResults io config fuel) then pure false
    else Prog.read (·.server.core.runStatus)

/-- `~IptServer` destroys the process. -/
def runProgram (fuel : Nat) (argv : List Bytes)
    (exceptions : List (ExceptionType × ExceptionContext)) : Prog Session Bool :=
  if argv = [] then pure false
  else do
    onServer (modifyProcess fun process => { process with argv := argv })
    onServer (modify fun server => { server with hasProcess := true })
    let status ← run env device io config fuel exceptions
    onServer (Process.destroy env)
    pure status

/-! ## The devices are closed -/

section Devices

open Control

variable {env device io config}

abbrev LeavesClosed {α : Type} (program : Prog Session α) : Prop :=
  Triple (fun session => Holding closed session.control) program
    (fun _ session => Holding closed session.control) fun session => LawfulSoFar session.control

theorem leavesClosed_onControl {α : Type} {inner : Prog Control α} (leaves : Leaves closed inner) :
    LeavesClosed (onControl inner) := leaves.zoom fun _ _ => rfl

theorem leavesClosed_onIptServer {α : Type} (inner : Prog IptServer α) :
    LeavesClosed (onIptServer inner) := by
  have framed : Triple (fun session : Session => Holding closed session.control)
      (onIptServer inner) (fun _ session => Holding closed session.control)
      fun session => Holding closed session.control := .zoom_frame fun _ _ holding => holding
  exact framed.weaken_stopped fun _ holding => holding.lawful

theorem leavesClosed_onServer {α : Type} (inner : Prog Server α) : LeavesClosed (onServer inner) :=
  leavesClosed_onIptServer _

theorem leavesClosed_pure {α : Type} (value : α) : LeavesClosed (pure value) :=
  .pure fun _ holding => holding

theorem leavesClosed_forCpus {α : Type} {otherwise : α} {program : Prog Control α}
    (leaves : Leaves closed program) : LeavesClosed (forCpus config otherwise program) := by
  unfold forCpus
  split
  · exact leavesClosed_onControl leaves
  · exact leavesClosed_pure otherwise

theorem leavesClosed_prepare : LeavesClosed (prepare io config) :=
  (leavesClosed_onControl leaves_setPerfMode).check (leavesClosed_pure false) <|
    (leavesClosed_forCpus leaves_initCpuPerf).check (leavesClosed_pure false) <|
      leavesClosed_onControl leaves_initPerfPreProcess

theorem leavesClosed_setUp : LeavesClosed (setUp env io) :=
  (leavesClosed_onControl leaves_launch).bind fun _ =>
    (leavesClosed_onServer _).check (leavesClosed_pure false) (leavesClosed_onServer _)

theorem leavesClosed_startInferior : LeavesClosed (startInferior env io config) :=
  leavesClosed_prepare.check (leavesClosed_pure false) <|
    leavesClosed_setUp.check (leavesClosed_pure false) <|
      (leavesClosed_forCpus leaves_startCpuPerf).check
        ((leavesClosed_onControl leaves_resetPerf).bind fun _ => leavesClosed_pure false)
        (leavesClosed_onServer _)

theorem leavesClosed_dumpResults (fuel : Nat) : LeavesClosed (dumpResults io config fuel) :=
  (leavesClosed_forCpus leaves_stopCpuPerf).bind fun _ =>
    (leavesClosed_onControl leaves_stopPerf).bind fun _ =>
      (leavesClosed_forCpus leaves_dumpCpuPerf).bind fun _ =>
        (leavesClosed_onControl (leaves_dumpPerf fuel)).bind fun _ =>
          (leavesClosed_forCpus leaves_resetCpuPerf).bind fun _ =>
            (leavesClosed_onControl leaves_resetPerf).bind fun _ => leavesClosed_pure true

theorem leavesClosed_run (fuel : Nat) (exceptions : List (ExceptionType × ExceptionContext)) :
    LeavesClosed (run env device io config fuel exceptions) := by
  refine (leavesClosed_onServer _).bind fun created => ?_
  split
  · exact leavesClosed_pure false
  · refine leavesClosed_startInferior.check (leavesClosed_pure false) ?_
    refine .bind (.forM fun exception => leavesClosed_onIptServer _) fun _ => ?_
    exact (leavesClosed_dumpResults fuel).check (leavesClosed_pure false) (.read fun _ => id)

theorem leavesClosed_runProgram (fuel : Nat) (argv : List Bytes)
    (exceptions : List (ExceptionType × ExceptionContext)) :
    LeavesClosed (runProgram env device io config fuel argv exceptions) := by
  unfold runProgram
  split
  · exact leavesClosed_pure false
  · exact (leavesClosed_onServer _).bind fun _ => (leavesClosed_onServer _).bind fun _ =>
      (leavesClosed_run fuel exceptions).bind fun status =>
        (leavesClosed_onServer _).bind fun _ => leavesClosed_pure status

/-- Whichever calls fail and whatever the inferior does: a device is used only while it is
open, it is not opened twice, no device is open when the inferior is set up, and none
when the program ends. -/
theorem runProgram_devices (env : Env) (device : Device) (io : ControlIo) (config : IptConfig)
    (fuel : Nat) (argv : List Bytes) (exceptions : List (ExceptionType × ExceptionContext))
    (server : IptServer) (files : Bytes → Option Bytes) :
    let outcome := runProgram env device io config fuel argv exceptions ⟨server, ⟨[], files⟩⟩
    Ledger.Lawful outcome.2.control.deeds ∧ LaunchedClosed outcome.2.control.journal ∧
      (outcome.1.isSome → Ledger.Settled outcome.2.control.deeds) := by
  have triple : LeavesClosed (runProgram env device io config fuel argv exceptions) :=
    leavesClosed_runProgram fuel argv exceptions
  have ended := triple ⟨server, ⟨[], files⟩⟩ (holding_new files)
  cases ran : runProgram env device io config fuel argv exceptions ⟨server, ⟨[], files⟩⟩ with
  | mk result reached =>
      rw [ran] at ended
      cases result with
      | none => exact ⟨ended.lawful, ended.launched, nofun⟩
      | some status =>
          exact ⟨ended.stands.lawful, ended.launched, fun _ => congrFun ended.stands.owner⟩

end Devices

end Session

end Gdbserver.Ipt
