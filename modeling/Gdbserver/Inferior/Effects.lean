import Gdbserver.Inferior.Process

/-!
# What the helpers leave alone

Reading and writing registers and memory and refreshing the thread map change
neither the attachment of the process nor what has been posted. Work on one
thread leaves the others alone. `Resume` and `Step` record a request besides.
-/

set_option autoImplicit false

namespace Gdbserver

open Logic Prog Frame

/-- The members that tell how far a process has come between being set up and gone. -/
structure Lifecycle where
  launchpad : Bool
  handle : Handle
  state : ProcessState
  id : Koid
  eportKey : UInt64
  attachedRunning : Bool
  deriving DecidableEq

def Process.lifecycle (process : Process) : Lifecycle :=
  ⟨process.launchpad, process.handle, process.state, process.id, process.eportKey,
    process.attachedRunning⟩

def Event.isRequest : Event → Bool
  | .resume _ | .step _ => true
  | .violated _ | .moved _ _ => false

structure Quiet (before after : Server) : Prop where
  hasProcess : after.hasProcess = before.hasProcess
  lifecycle : after.process.lifecycle = before.process.lifecycle
  exceptionPort : after.exceptionPort = before.exceptionPort
  posted : after.posted = before.posted
  log : after.log = before.log

def quiet : Frame Server where
  rel := Quiet
  refl _ := ⟨rfl, rfl, rfl, rfl, rfl⟩
  trans first second :=
    ⟨second.hasProcess.trans first.hasProcess, second.lifecycle.trans first.lifecycle,
      second.exceptionPort.trans first.exceptionPort, second.posted.trans first.posted,
      second.log.trans first.log⟩

/-- The same, but threads may have been asked to run. -/
structure Still (before after : Server) : Prop where
  hasProcess : after.hasProcess = before.hasProcess
  lifecycle : after.process.lifecycle = before.process.lifecycle
  exceptionPort : after.exceptionPort = before.exceptionPort
  posted : after.posted = before.posted
  log : ∃ requests, after.log = before.log ++ requests ∧ ∀ event ∈ requests, event.isRequest

theorem Quiet.still {before after : Server} (kept : Quiet before after) : Still before after :=
  ⟨kept.hasProcess, kept.lifecycle, kept.exceptionPort, kept.posted, [],
    by rw [kept.log, List.append_nil], by simp⟩

def still : Frame Server where
  rel := Still
  refl server := (quiet.refl server).still
  trans := by
    intro before middle after first second
    obtain ⟨requests, logged, each⟩ := first.log
    obtain ⟨more, loggedMore, eachMore⟩ := second.log
    refine ⟨second.hasProcess.trans first.hasProcess, second.lifecycle.trans first.lifecycle,
      second.exceptionPort.trans first.exceptionPort, second.posted.trans first.posted,
      requests ++ more, by rw [loggedMore, logged, List.append_assoc], ?_⟩
    intro event member
    exact (List.mem_append.mp member).elim (each event) (eachMore event)

theorem Logic.Frame.Runs.still {α : Type} {program : Prog Server α} (runs : quiet.Runs program) :
    Gdbserver.still.Runs program := runs.mono Quiet.still

/-- Only this thread has been worked on. The answers the kernel will give when
another one is resumed are still to come. -/
structure Beside (tid : Koid) (before after : Server) : Prop extends Quiet before after where
  others : ∀ other, other ≠ tid → after.thread other = before.thread other
  calls : ∀ other, other ≠ tid →
    after.calls (.taskResume other) = before.calls (.taskResume other)
  keys : after.process.threads.keys = before.process.threads.keys

def beside (tid : Koid) : Frame Server where
  rel := Beside tid
  refl server := ⟨quiet.refl server, fun _ _ => rfl, fun _ _ => rfl, rfl⟩
  trans first second :=
    ⟨quiet.trans first.toQuiet second.toQuiet,
      fun other differ => (second.others other differ).trans (first.others other differ),
      fun other differ => (second.calls other differ).trans (first.calls other differ),
      second.keys.trans first.keys⟩

theorem Logic.Frame.Runs.quiet {α : Type} {tid : Koid} {program : Prog Server α}
    (runs : (beside tid).Runs program) : Gdbserver.quiet.Runs program := runs.mono Beside.toQuiet

theorem ask_quiet (env : Env) (call : Call) : quiet.Runs (ask env call) := fun _ =>
  ⟨_, _, rfl, rfl, rfl, rfl, rfl, rfl⟩

theorem ask_bind_quiet {env : Env} {call : Call} {α : Type} {next : call.Answer → Prog Server α}
    (tail : ∀ answer, quiet.Runs (next answer)) : quiet.Runs (ask env call >>= next) :=
  Runs.bind (ask_quiet env call) tail

theorem modifyProcess_quiet {update : Process → Process}
    (same : ∀ process, (update process).lifecycle = process.lifecycle) :
    quiet.Runs (modifyProcess update) :=
  Runs.modify fun server => ⟨rfl, same server.process, rfl, rfl, rfl⟩

section Threads

variable (env : Env) (tid : Koid)

theorem ask_bind_beside {call : Call} {α : Type} {next : call.Answer → Prog Server α}
    (differs : ∀ other, other ≠ tid → Call.taskResume other ≠ call)
    (tail : ∀ answer, (beside tid).Runs (next answer)) : (beside tid).Runs (ask env call >>= next) := by
  have asked : (beside tid).Runs (ask env call) := fun server =>
    ⟨_, _, rfl, ⟨rfl, rfl, rfl, rfl, rfl⟩, fun _ _ => rfl,
      fun other differ => server.asked_calls (differs other differ), rfl⟩
  exact Runs.bind asked tail

theorem modifyThread_beside (update : Thread → Thread) :
    (beside tid).Runs (modifyThread tid update) :=
  Runs.modify fun _ => ⟨⟨rfl, rfl, rfl, rfl, rfl⟩, fun _ differ => Function.update_of_ne differ _ _,
    fun _ _ => rfl, rfl⟩

namespace Registers

theorem refreshGeneralRegisters_beside : (beside tid).Runs (refreshGeneralRegisters env tid) := by
  unfold refreshGeneralRegisters
  split
  · exact Runs.pure
  all_goals
    exact Runs.bind Runs.read fun _ => Runs.ite
      (fun _ => Runs.bind (modifyThread_beside tid _) fun _ => Runs.pure)
      fun _ => ask_bind_beside env tid (fun _ _ => nofun) fun _ => Runs.ite (fun _ => Runs.pure)
        fun _ => Runs.bind Runs.read fun _ =>
          Runs.bind (modifyThread_beside tid _) fun _ => Runs.pure

theorem writeGeneralRegisters_beside : (beside tid).Runs (writeGeneralRegisters env tid) := by
  unfold writeGeneralRegisters
  split
  · exact Runs.pure
  all_goals
    exact ask_bind_beside env tid (fun _ _ => nofun) fun _ => Runs.ite (fun _ => Runs.pure) fun _ =>
      Runs.bind (Runs.modify fun _ =>
        ⟨⟨rfl, rfl, rfl, rfl, rfl⟩, fun _ _ => rfl, fun _ _ => rfl, rfl⟩) fun _ => Runs.pure

theorem getPC_beside : (beside tid).Runs (getPC env tid) := by
  refine Runs.bind Runs.read fun gregs => ?_
  split
  · exact Runs.pure
  · exact ask_bind_beside env tid (fun _ _ => nofun) fun _ => Runs.pure

end Registers

namespace Thread

theorem updateRegisters_beside (update : RegisterSet → Option RegisterSet) :
    (beside tid).Runs (updateRegisters tid update) := by
  refine Runs.bind Runs.read fun gregs => ?_
  split
  · exact Runs.pure
  · exact Runs.bind (modifyThread_beside tid _) fun _ => Runs.pure

theorem setRflagsTF_beside (enable : Bool) : (beside tid).Runs (setRflagsTF env tid enable) :=
  Runs.bind (Registers.refreshGeneralRegisters_beside env tid) fun _ =>
    Runs.ite (fun _ => Runs.pure) fun _ => Runs.bind (updateRegisters_beside tid _) fun _ =>
      Runs.ite (fun _ => Runs.pure) fun _ => Registers.writeGeneralRegisters_beside env tid

theorem insertSingleStepBreakpoint_beside (address : UInt64) :
    (beside tid).Runs (insertSingleStepBreakpoint env tid address) := by
  refine Runs.bind Runs.read fun _ => Runs.ite (fun _ => Runs.pure) fun _ => ?_
  split
  · exact Runs.bind (setRflagsTF_beside env tid true) fun _ => Runs.ite (fun _ => Runs.pure)
      fun _ => Runs.bind (modifyThread_beside tid _) fun _ => Runs.pure
  all_goals exact Runs.pure

theorem removeSingleStepBreakpoint_beside :
    (beside tid).Runs (removeSingleStepBreakpoint env tid) := by
  have destroyed : (beside tid).Runs (destroySingleStepBreakpoint env tid) := by
    unfold destroySingleStepBreakpoint
    split
    · exact Runs.bind (setRflagsTF_beside env tid false) fun _ => Runs.pure
    all_goals exact Runs.pure
  exact Runs.bind Runs.read fun _ => Runs.ite (fun _ => Runs.pure) fun _ =>
    Runs.bind destroyed fun _ => Runs.bind (modifyThread_beside tid _) fun _ => Runs.pure

theorem onException_quiet (type : ExceptionType) (context : ExceptionContext) :
    quiet.Runs (onException env tid type context) :=
  Runs.quiet (Runs.bind (modifyThread_beside tid _) fun _ => Runs.bind Runs.read fun _ =>
    Runs.bind (modifyThread_beside tid _) fun _ => Runs.ite
      (fun _ => Runs.bind (removeSingleStepBreakpoint_beside env tid) fun _ => Runs.pure)
      fun _ => Runs.pure)

theorem resumeForExit_quiet : quiet.Runs (resumeForExit env tid) :=
  Runs.quiet (ask_bind_beside env tid (fun _ differ same => differ (Call.taskResume.inj same))
    fun _ => modifyThread_beside tid _)

end Thread

/-- The thread has been asked to run in these ways. -/
def Ran (tid : Koid) (before after : Server) (requests : List Event) : Prop :=
  Beside tid (before.observe requests) after

variable {tid}

theorem Beside.observe {before after : Server} (kept : Beside tid before after)
    (events : List Event) : Beside tid (before.observe events) (after.observe events) :=
  ⟨⟨kept.hasProcess, kept.lifecycle, kept.exceptionPort, kept.posted,
    congrArg (· ++ events) kept.log⟩, kept.others, kept.calls, kept.keys⟩

theorem Ran.trans {before middle after : Server} {requests more : List Event}
    (first : Ran tid before middle requests) (second : Ran tid middle after more) :
    Ran tid before after (requests ++ more) := by
  have both := (beside tid).trans (first.observe more) second
  rwa [Server.observe, Server.observe, List.append_assoc] at both

theorem Ran.still {before after : Server} {requests : List Event}
    (ran : Ran tid before after requests) (each : ∀ event ∈ requests, event.isRequest) :
    Still before after :=
  ⟨ran.hasProcess, ran.lifecycle, ran.exceptionPort, ran.posted, requests, ran.log, each⟩

namespace Thread

variable (tid)

theorem step_ran (server : Server) :
    ∃ ok after, step env tid server = (some ok, after) ∧ Ran tid server after [.step tid] := by
  have rest : (beside tid).Runs (do
      let state ← read fun server => (server.thread tid).state
      if state ≠ .stopped then pure false
      else if !(← Registers.refreshGeneralRegisters env tid) then pure false
      else do
        let pc ← Registers.getPC env tid
        if !(← insertSingleStepBreakpoint env tid pc) then pure false
        else do
          let status ← ask env (.taskResume tid)
          if status < 0 then do
            let _ ← removeSingleStepBreakpoint env tid
            pure false
          else do
            setState tid .stepping
            pure true) :=
    Runs.bind Runs.read fun _ => Runs.ite (fun _ => Runs.pure) fun _ =>
      Runs.bind (Registers.refreshGeneralRegisters_beside env tid) fun _ =>
      Runs.ite (fun _ => Runs.pure) fun _ => Runs.bind (Registers.getPC_beside env tid) fun _ =>
      Runs.bind (insertSingleStepBreakpoint_beside env tid _) fun _ =>
      Runs.ite (fun _ => Runs.pure) fun _ =>
      ask_bind_beside env tid (fun _ differ same => differ (Call.taskResume.inj same)) fun _ =>
      Runs.ite
        (fun _ => Runs.bind (removeSingleStepBreakpoint_beside env tid) fun _ => Runs.pure)
        fun _ => Runs.bind (modifyThread_beside tid _) fun _ => Runs.pure
  exact rest (server.observe [.step tid])

def resumable (server : Server) : Bool := ¬ env.now (.taskResume tid) server < (0 : Int)

/-- `Resume` is one request. A stopped or new thread is running afterwards, or as
it was if the kernel refused to resume it. -/
theorem resume_ran (server : Server) :
    ∃ ok after, resume env tid server = (some ok, after) ∧ Ran tid server after [.resume tid] ∧
      (after.thread tid).state =
        if ((server.thread tid).state = .new ∨ (server.thread tid).state = .stopped) ∧
          resumable env tid server then .running else (server.thread tid).state := by
  let recorded := server.observe [.resume tid]
  have first : record (.resume tid) server = (some (), recorded) := rfl
  rw [resume, bind_of_some first, read_bind]
  by_cases busy : (recorded.thread tid).state ≠ .stopped ∧ (recorded.thread tid).state ≠ .new
  · have other : ¬ (((server.thread tid).state = .new ∨ (server.thread tid).state = .stopped) ∧
        resumable env tid server = true) := fun ⟨ready, _⟩ => ready.elim busy.2 busy.1
    rw [if_pos busy, if_neg other]
    exact ⟨false, recorded, rfl, (beside tid).refl recorded, rfl⟩
  · have ready : (server.thread tid).state = .new ∨ (server.thread tid).state = .stopped := by
      by_contra neither
      exact busy ⟨fun stopped => neither (Or.inr stopped), fun new => neither (Or.inl new)⟩
    have asked : Beside tid recorded (recorded.asked (.taskResume tid)) :=
      ⟨⟨rfl, rfl, rfl, rfl, rfl⟩, fun _ _ => rfl, fun _ differ =>
        recorded.asked_calls fun same => differ (Call.taskResume.inj same), rfl⟩
    rw [if_neg busy, ask_bind]
    by_cases refused : env.now (.taskResume tid) recorded < (0 : Int)
    · have unresumable : resumable env tid server = false := by
        simpa [resumable] using show env.now (.taskResume tid) server < (0 : Int) from refused
      rw [if_pos refused]
      refine ⟨false, _, rfl, asked, ?_⟩
      rw [if_neg fun both => Bool.false_ne_true (unresumable.symm.trans both.2)]
      rfl
    · have granted : resumable env tid server = true := by
        simpa [resumable] using show ¬ env.now (.taskResume tid) server < (0 : Int) from refused
      obtain ⟨_, after, ran, kept⟩ := modifyThread_beside tid
        (fun thread => { thread with state := .running }) (recorded.asked (.taskResume tid))
      rw [if_neg refused]
      refine ⟨true, after, bind_of_some ran, (beside tid).trans asked kept, ?_⟩
      rw [if_pos ⟨ready, granted⟩]
      cases ran
      simp [Server.thread, Server.setThread, ThreadMap.set]

theorem step_still : still.Runs (step env tid) := fun server =>
  have ⟨ok, after, ran, kept⟩ := step_ran env tid server
  ⟨ok, after, ran, kept.still (by simp [Event.isRequest])⟩

theorem resume_still : still.Runs (resume env tid) := fun server =>
  have ⟨ok, after, ran, kept, _⟩ := resume_ran env tid server
  ⟨ok, after, ran, kept.still (by simp [Event.isRequest])⟩

end Thread

end Threads

namespace Process

theorem createThread_quiet : quiet.Runs createThread :=
  Runs.bind Runs.read fun _ =>
    Runs.bind (Runs.modify fun _ => ⟨rfl, rfl, rfl, rfl, rfl⟩) fun _ => Runs.pure

theorem collectThreads_quiet (env : Env) (koids : List Koid) (newThreads : ThreadMap) :
    quiet.Runs (collectThreads env koids newThreads) := by
  induction koids generalizing newThreads with
  | nil => exact Runs.pure
  | cons threadId rest ih =>
      exact ask_bind_quiet fun _ => Runs.ite (fun _ => ih newThreads) fun _ =>
        Runs.bind createThread_quiet fun thread => ih (newThreads.insert threadId thread)

theorem refreshAllThreads_quiet (env : Env) : quiet.Runs (refreshAllThreads env) :=
  ask_bind_quiet fun _ => Runs.ite (fun _ => Runs.pure) fun _ =>
    ask_bind_quiet fun _ => Runs.ite (fun _ => Runs.pure) fun _ =>
      Runs.bind Runs.read fun cleared =>
        Runs.bind (collectThreads_quiet env _ cleared) fun _ =>
          Runs.bind (modifyProcess_quiet fun _ => rfl) fun _ => Runs.pure

theorem ensureThreadMapFresh_quiet (env : Env) : quiet.Runs (ensureThreadMapFresh env) :=
  Runs.bind Runs.read fun _ => Runs.ite
    (fun _ => Runs.bind (refreshAllThreads_quiet env) fun _ => Runs.pure) fun _ => Runs.pure

theorem findThreadById_quiet (env : Env) (threadId : Koid) :
    quiet.Runs (findThreadById env threadId) := by
  refine Runs.ite (fun _ => Runs.pure) fun _ =>
    Runs.bind (ensureThreadMapFresh_quiet env) fun _ => Runs.bind Runs.read fun found => ?_
  cases found with
  | some thread => exact Runs.ite (fun _ => Runs.pure) fun _ => Runs.pure
  | none =>
      exact ask_bind_quiet fun _ => Runs.ite (fun _ => Runs.pure) fun _ =>
        Runs.bind createThread_quiet fun _ =>
          Runs.bind (modifyProcess_quiet fun _ => rfl) fun _ => Runs.pure

theorem pickOneThread_quiet (env : Env) : quiet.Runs (pickOneThread env) :=
  Runs.bind (ensureThreadMapFresh_quiet env) fun _ => Runs.bind Runs.read fun _ =>
    Runs.ite (fun _ => Runs.pure) fun _ => ask_bind_quiet fun _ => Runs.pure

theorem forEachLiveThread_still (env : Env) {callback : Koid → Prog Server Unit}
    (each : ∀ tid, still.Runs (callback tid)) : still.Runs (forEachLiveThread env callback) :=
  Runs.bind (ensureThreadMapFresh_quiet env).still fun _ => Runs.bind Runs.read fun _ =>
    Runs.forM fun tid _ => Runs.bind Runs.read fun _ =>
      Runs.ite (fun _ => each tid) fun _ => Runs.pure

theorem writeMemory_quiet (env : Env) (address : UInt64) (data : Bytes) :
    quiet.Runs (writeMemory env address data) :=
  Runs.bind Runs.read fun _ => Runs.ite (fun _ => Runs.pure) fun _ =>
    Runs.ite (fun _ => Runs.pure) fun _ => ask_bind_quiet fun _ =>
      Runs.ite (fun _ => Runs.pure) fun _ =>
        Runs.bind (Runs.modify fun _ => ⟨rfl, rfl, rfl, rfl, rfl⟩) fun _ => Runs.pure

theorem tryBuildLoadedDsosList_quiet (env : Env) (tid : Koid) :
    quiet.Runs (tryBuildLoadedDsosList env tid) := by
  refine ask_bind_quiet fun _ => Runs.ite (fun _ => Runs.pure) fun _ =>
    ask_bind_quiet fun debug => ?_
  cases debug with
  | none => exact Runs.pure
  | some debug =>
      exact Runs.ite (fun _ => Runs.pure) fun _ =>
        Runs.bind (Registers.refreshGeneralRegisters_beside env tid).quiet fun _ =>
          Runs.bind (Registers.getPC_beside env tid).quiet fun _ =>
            Runs.ite (fun _ => Runs.pure) fun _ =>
              ask_bind_quiet fun _ => modifyProcess_quiet fun _ => rfl

theorem exitCode_quiet (env : Env) : quiet.Runs (exitCode env) :=
  ask_bind_quiet fun _ => Runs.ite (fun _ => Runs.pure) fun _ => Runs.pure

end Process

theorem Server.setCurrentThread_quiet (tid : Option Koid) :
    quiet.Runs (Server.setCurrentThread tid) :=
  Runs.modify fun _ => ⟨rfl, rfl, rfl, rfl, rfl⟩

end Gdbserver
